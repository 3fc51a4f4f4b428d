/-
# What comes back first

Until something is delivered, a session that sends a line only calls its host and waits, and so the
delivery that it takes in first is told by the host alone (`Host.firstAnswer`): it comes with the
write, with the flush, or with the first batch of a wait that is not empty.  The session that takes
it in has what it had when it began to send (`Untouched`), and after it the send goes on by talking
(`meets_sendThrough`).
-/
import Mathlib
import ScriptedShell.Proofs.Remote.Talking

namespace ScriptedShell.Remote

open Inbox Text

variable {σ : Type}

/-! ## The first delivery -/

/-- The first delivery of arrivals, or the world when there is none. -/
def Arrivals.first : Arrivals σ → Delivery ⊕ σ
  | .nothing world => .inr world
  | .batch [] _ more => more.first
  | .batch (d :: _) _ _ => .inl d

/-- What a host delivers first to a session that waits after it has sent a line: while the session
waits for a request for the password, if the line is privileged, or before or while it waits for the
prompt. -/
def Host.firstWhileWaiting (host : Host σ) (setup : Setup) (text : String) (world : σ) :
    Option Delivery :=
  if contains text setup.settings.sudoMarker then
    match (host.await (some setup.settings.cueTimeout) world).first with
    | .inl d => some d
    | .inr world =>
      match host.pause .resuming world with
      | (d :: _, _) => some d
      | ([], world) => (host.await none world).first.getLeft?
  else (host.await none world).first.getLeft?

/-- What a host delivers first to a session that has written a line and flushes the connection. -/
def Host.firstAfterWrite (host : Host σ) (setup : Setup) (connection : Nat) (text : String)
    (world : σ) : Option Delivery :=
  let flushed := host.flush connection world
  match flushed.deliveries, flushed.failure with
  | d :: _, _ => some d
  | [], some _ => none
  | [], none => host.firstWhileWaiting setup text flushed.world

/-- What a host delivers first to a session that sends a line, if it delivers anything before the
send ends. -/
def Host.firstAnswer (host : Host σ) (setup : Setup) (connection : Nat) (text : String)
    (world : σ) : Option Delivery :=
  let written := host.write connection (text ++ "\r") world
  match written.deliveries, written.failure with
  | d :: _, _ => some d
  | [], some _ => none
  | [], none => host.firstAfterWrite setup connection text written.world

/-- What comes first with a call: a delivery of its answer, or, when it succeeds without any, what comes
later. -/
theorem Reply.first_cases {r : Reply σ} {later : Option Delivery} {d : Delivery}
    (h : (match r.deliveries, r.failure with
      | d :: _, _ => some d
      | [], some _ => none
      | [], none => later) = some d) :
    (∃ rest, r.deliveries = d :: rest) ∨
      (r.deliveries = [] ∧ r.failure = none ∧ later = some d) := by
  split at h
  · next first rest hdeliveries =>
    cases h
    exact .inl ⟨rest, hdeliveries⟩
  · cases h
  · next hnone hok => exact .inr ⟨hnone, hok, h⟩

namespace Session

/-! ## Before the first delivery -/

/-- Whether nothing has been delivered to a session since another one: of its inbox at most the wait
for a request for the password was given up, and it has only made calls. -/
structure Untouched (s v : Session σ) : Prop where
  inbox_eq : ∃ awaiting, v.inbox = { s.inbox with awaitingCue := awaiting }
  handlers_eq : v.handlers = s.handlers
  calls : ∃ acts, v.trace = s.trace ++ acts ∧
    ∀ a ∈ acts, (∃ connection text, a = .wrote connection text) ∨ ∃ connection, a = .flushed connection

namespace Untouched

variable {s t u : Session σ}

/-- Whatever becomes of the world, nothing is delivered. -/
theorem within (s : Session σ) (world : σ) : Untouched s { s with world } :=
  ⟨⟨s.inbox.awaitingCue, rfl⟩, rfl, [], (List.append_nil _).symm, by simp⟩

/-- Nothing is delivered while a wait is given up. -/
theorem giveUpCue (s : Session σ) : Untouched s s.giveUpCue :=
  ⟨⟨false, rfl⟩, rfl, [], (List.append_nil _).symm, by simp⟩

/-- Nothing is delivered by noting that something is written. -/
theorem wrote (s : Session σ) (connection : Nat) (text : String) :
    Untouched s (s.note [.wrote connection text]) :=
  ⟨⟨s.inbox.awaitingCue, rfl⟩, rfl, _, rfl, by simp⟩

/-- Nothing is delivered by noting that a connection is flushed. -/
theorem flushed (s : Session σ) (connection : Nat) :
    Untouched s (s.note [.flushed connection]) :=
  ⟨⟨s.inbox.awaitingCue, rfl⟩, rfl, _, rfl, by simp⟩

theorem trans (h : Untouched s t) (h' : Untouched t u) : Untouched s u := by
  obtain ⟨⟨awaiting, hinbox⟩, hhandlers, x, htrace, hx⟩ := h
  obtain ⟨⟨awaiting', hinbox'⟩, hhandlers', y, htrace', hy⟩ := h'
  refine ⟨⟨awaiting', ?_⟩, hhandlers'.trans hhandlers, x ++ y, ?_, List.forall_mem_append.mpr ⟨hx, hy⟩⟩
  · rw [hinbox', hinbox]
  · rw [htrace', htrace, List.append_assoc]

end Untouched

/-- Whether the first delivery that a session takes in on its way to another one is the given one. -/
def Meets (width : Nat) (d : Delivery) (s t : Session σ) : Prop :=
  ∃ v, Untouched s v ∧ Talks (v.deliver width d) t

/-- Whether nothing is known to a session that would end a wait. -/
structure IsWaiting (s : Session σ) : Prop where
  promptSeen_eq : s.inbox.promptSeen = false
  cueSeen_eq : s.inbox.cueSeen = false
  streamError_eq : s.inbox.streamError = none

section Meets

variable {width : Nat} {d : Delivery} {s t u : Session σ}

theorem Meets.after (h : Untouched s t) (h' : Meets width d t u) : Meets width d s u := by
  obtain ⟨v, hv, htalks⟩ := h'
  exact ⟨v, h.trans hv, htalks⟩

theorem Meets.talks (h : Meets width d s t) (h' : Talks t u) : Meets width d s u := by
  obtain ⟨v, hv, htalks⟩ := h
  exact ⟨v, hv, htalks.trans h'⟩

/-- A session that has taken in nothing still waits. -/
theorem IsWaiting.untouched (h : IsWaiting s) (h' : Untouched s t) : IsWaiting t := by
  obtain ⟨⟨awaiting, hinbox⟩, -, -⟩ := h'
  refine ⟨?_, ?_, ?_⟩
  · rw [hinbox]
    exact h.promptSeen_eq
  · rw [hinbox]
    exact h.cueSeen_eq
  · rw [hinbox]
    exact h.streamError_eq

/-- A wait for the prompt goes on when nothing is known. -/
theorem IsWaiting.promptFound_eq (h : IsWaiting s) : s.promptFound = none := by
  rw [promptFound, h.promptSeen_eq, h.streamError_eq]
  rfl

/-- A wait for a request for the password goes on when nothing is known. -/
theorem IsWaiting.cueFound_eq (h : IsWaiting s) : s.cueFound = none := by
  rw [cueFound, h.promptSeen_eq, h.cueSeen_eq, h.streamError_eq]
  rfl

/-! ## Deliveries -/

/-- Of deliveries the first one is taken in first. -/
theorem meets_deliverAll (s : Session σ) (d : Delivery) (ds : List Delivery) :
    Meets width d s (s.deliverAll width (d :: ds)) :=
  ⟨s, .within s s.world, talks_deliverAll width (s.deliver width d) ds⟩

/-- Of the deliveries of an answer the first one is taken in first. -/
theorem meets_absorb (s : Session σ) {r : Reply σ} {ds : List Delivery}
    (h : r.deliveries = d :: ds) : Meets width d s (s.absorb width r) := by
  rw [absorb, h]
  exact .after (.within s r.world) (meets_deliverAll _ d ds)

/-- An answer without deliveries leaves a session untouched. -/
theorem untouched_absorb (s : Session σ) {r : Reply σ} (h : r.deliveries = []) :
    Untouched s (s.absorb width r) := by
  rw [absorb, h]
  exact .within s r.world

/-! ## Waits -/

/-- A wait for the prompt takes in the first delivery that arrives. -/
theorem meets_waitForPrompt (hwaiting : IsWaiting s) {arrivals : Arrivals σ}
    (h : arrivals.first = .inl d) : Meets width d s (s.waitForPrompt width arrivals).2 := by
  induction arrivals generalizing s with
  | nothing world => cases h
  | batch deliveries world more ih =>
    have hworld : Untouched s { s with world } := .within s world
    rw [waitForPrompt, hwaiting.promptFound_eq]
    cases deliveries with
    | nil => exact .after hworld (ih (hwaiting.untouched hworld) h)
    | cons first rest =>
      cases h
      exact .after hworld ((meets_deliverAll _ d rest).talks (talks_waitForPrompt width _ more))

/-- A wait for a request for the password takes in the first delivery that arrives. -/
theorem meets_waitForCue (hwaiting : IsWaiting s) {arrivals : Arrivals σ}
    (h : arrivals.first = .inl d) : Meets width d s (s.waitForCue width arrivals).2 := by
  induction arrivals generalizing s with
  | nothing world => cases h
  | batch deliveries world more ih =>
    have hworld : Untouched s { s with world } := .within s world
    rw [waitForCue, hwaiting.cueFound_eq]
    cases deliveries with
    | nil => exact .after hworld (ih (hwaiting.untouched hworld) h)
    | cons first rest =>
      cases h
      exact .after hworld ((meets_deliverAll _ d rest).talks (talks_waitForCue width _ more))

/-- A wait for a request for the password is given up when nothing arrives. -/
theorem waitForCue_of_nothing (hwaiting : IsWaiting s) {arrivals : Arrivals σ} {world : σ}
    (h : arrivals.first = .inr world) :
    s.waitForCue width arrivals = (false, { s with world }.giveUpCue) := by
  induction arrivals generalizing s with
  | nothing world' =>
    cases h
    rw [waitForCue, hwaiting.cueFound_eq]
    rfl
  | batch deliveries world' more ih =>
    rw [waitForCue, hwaiting.cueFound_eq]
    cases deliveries with
    | nil => exact ih (hwaiting.untouched (.within s world')) h
    | cons first rest => cases h

end Meets

/-! ## Sends -/

section Send

variable (host : Host σ) (setup : Setup) {d : Delivery} {s : Session σ}

/-- What is delivered at a moment. -/
theorem pause_eq (s : Session σ) {m : Moment} {deliveries : List Delivery} {world : σ}
    (h : host.pause m s.world = (deliveries, world)) :
    s.pause host setup m = { s with world }.deliverAll setup.width deliveries := by
  rw [pause, h]

/-- A moment takes in what comes at it. -/
theorem meets_pause (s : Session σ) {m : Moment} {rest : List Delivery} {world : σ}
    (h : host.pause m s.world = (d :: rest, world)) :
    Meets setup.width d s (s.pause host setup m) := by
  rw [pause_eq host setup s h]
  exact .after (.within s world) (meets_deliverAll _ d rest)

/-- Once the prompt is waited for, the output is collected by talking. -/
theorem talks_waitForPrompt_awaitOutput (s : Session σ) :
    Talks (s.waitForPrompt setup.width (host.await none s.world)).2
      (s.awaitOutput host setup).2 := by
  rw [awaitOutput]
  split
  · next t heq =>
    rw [heq]
    exact (talks_pause host setup t .collecting).trans (.within _ _ _)
  · next heq =>
    rw [heq]
    exact .refl _
  · next heq =>
    rw [heq]
    exact .refl _

/-- Waiting for the output takes in the first delivery that arrives. -/
theorem meets_awaitOutput (hwaiting : IsWaiting s)
    (h : (host.await none s.world).first = .inl d) :
    Meets setup.width d s (s.awaitOutput host setup).2 :=
  (meets_waitForPrompt hwaiting h).talks (talks_waitForPrompt_awaitOutput host setup s)

/-- Once a request is waited for, it is answered by talking. -/
theorem talks_waitForCue_answerCue (s : Session σ) (connection : Nat) (password : String) :
    Talks (s.waitForCue setup.width (host.await (some setup.settings.cueTimeout) s.world)).2
      (s.answerCue host setup connection password).2 := by
  rw [answerCue]
  split
  · next t heq =>
    rw [heq]
    exact (talks_pause host setup t .answering).trans (talks_enter host setup _ _ _)
  · next t heq =>
    rw [heq]
    exact talks_pause host setup t .resuming

/-- Once a request is answered, or not, the send goes on by talking. -/
theorem talks_answerCue_afterEntry (s : Session σ) (connection : Nat) (password : String)
    {text : String} (hprivileged : contains text setup.settings.sudoMarker = true) :
    Talks (s.answerCue host setup connection password).2
      (s.afterEntry host setup connection password text).2 := by
  rw [afterEntry, if_pos hprivileged]
  split
  · next heq =>
    rw [heq]
    exact .refl _
  · next t heq =>
    rw [heq]
    exact talks_awaitOutput host setup t

/-- After the writing of a line the first delivery is the one that the host has first for a session
that waits. -/
theorem meets_afterEntry (hwaiting : IsWaiting s) (connection : Nat) (password text : String)
    (h : host.firstWhileWaiting setup text s.world = some d) :
    Meets setup.width d s (s.afterEntry host setup connection password text).2 := by
  rw [Host.firstWhileWaiting] at h
  by_cases hprivileged : contains text setup.settings.sudoMarker = true
  · rw [if_pos hprivileged] at h
    have hafter := talks_answerCue_afterEntry host setup s connection password hprivileged
    cases hfirst : (host.await (some setup.settings.cueTimeout) s.world).first with
    | inl first =>
      rw [hfirst] at h
      cases h
      exact ((meets_waitForCue hwaiting hfirst).talks
        (talks_waitForCue_answerCue host setup s connection password)).talks hafter
    | inr world =>
      rw [hfirst] at h
      have hgiven : Untouched s { s with world }.giveUpCue :=
        (Untouched.within s world).trans (.giveUpCue _)
      have hanswer : s.answerCue host setup connection password =
          (none, { s with world }.giveUpCue.pause host setup .resuming) := by
        rw [answerCue, waitForCue_of_nothing hwaiting hfirst]
      rw [hanswer] at hafter
      rcases hpause : host.pause .resuming world with ⟨deliveries, later⟩
      dsimp only at h
      rw [hpause] at h
      cases deliveries with
      | nil =>
        -- nothing has come by the time at which the prompt is waited for
        have hlater : Untouched s { s with world := later }.giveUpCue :=
          (Untouched.within s later).trans (.giveUpCue _)
        have hentry : s.afterEntry host setup connection password text =
            { s with world := later }.giveUpCue.awaitOutput host setup := by
          have hresumed := pause_eq host setup { s with world }.giveUpCue hpause
          rw [afterEntry, if_pos hprivileged, hanswer, hresumed]
          rfl
        rw [hentry]
        exact .after hlater (meets_awaitOutput host setup (hwaiting.untouched hlater)
          (Sum.getLeft?_eq_some_iff.mp h))
      | cons first rest =>
        cases h
        have hmeets := meets_pause host setup { s with world }.giveUpCue hpause
        exact (Meets.after hgiven hmeets).talks hafter
  · rw [if_neg hprivileged] at h
    rw [afterEntry, if_neg hprivileged]
    exact meets_awaitOutput host setup hwaiting (Sum.getLeft?_eq_some_iff.mp h)

/-- What a session does once a line is written. -/
def afterWrite (s : Session σ) (connection : Nat) (password text : String) : Sent × Session σ :=
  match s.flush host setup connection with
  | (some cause, s) => (.failed cause, s)
  | (none, s) => s.afterEntry host setup connection password text

/-- What follows a flush is talk. -/
theorem talks_flush_afterWrite (s : Session σ) (connection : Nat) (password text : String) :
    Talks (s.flush host setup connection).2
      (s.afterWrite host setup connection password text).2 := by
  rw [afterWrite]
  split
  · next heq =>
    rw [heq]
    exact .refl _
  · next t heq =>
    rw [heq]
    exact talks_afterEntry host setup t connection password text

/-- Sending a line through a connection: the line is noted and written, and then the connection is
flushed. -/
theorem sendThrough_eq_afterWrite (s : Session σ) (connection : Nat) (password text : String) :
    s.sendThrough host setup connection password text =
      match (s.begun setup text).writeTo host setup connection (text ++ "\r") with
      | (some cause, s) => (.failed cause, s)
      | (none, s) => s.afterWrite host setup connection password text := by
  rw [sendThrough_eq_afterEntry, enter]
  rcases (s.begun setup text).writeTo host setup connection (text ++ "\r") with ⟨_ | cause, t⟩
  · rfl
  · rfl

/-- What follows a write is talk. -/
theorem talks_writeTo_sendThrough (s : Session σ) (connection : Nat) (password text : String) :
    Talks ((s.begun setup text).writeTo host setup connection (text ++ "\r")).2
      (s.sendThrough host setup connection password text).2 := by
  rw [sendThrough_eq_afterWrite]
  split
  · next heq =>
    rw [heq]
    exact .refl _
  · next t heq =>
    rw [heq]
    exact (talks_flush host setup t connection).trans
      (talks_flush_afterWrite host setup t connection password text)

/-- After the writing of a line the first delivery comes with the flush, or later. -/
theorem meets_afterWrite (hwaiting : IsWaiting s) (connection : Nat) (password text : String)
    (h : host.firstAfterWrite setup connection text s.world = some d) :
    Meets setup.width d s (s.afterWrite host setup connection password text).2 := by
  have hnoted : Untouched s (s.note [.flushed connection]) := .flushed s connection
  rcases Reply.first_cases h with ⟨rest, hfirst⟩ | ⟨hnone, hok, hlater⟩
  · exact (Meets.after hnoted (meets_absorb _ hfirst)).talks
      (talks_flush_afterWrite host setup s connection password text)
  · have hflushed : Untouched s (s.flush host setup connection).2 :=
      hnoted.trans (untouched_absorb _ hnone)
    have hworld : (s.flush host setup connection).2.world =
        (host.flush connection s.world).world := by
      rw [flush, absorb, hnone]
      rfl
    have hafter : s.afterWrite host setup connection password text =
        (s.flush host setup connection).2.afterEntry host setup connection password text := by
      rw [afterWrite, flush, hok]
    rw [hafter]
    refine .after hflushed (meets_afterEntry host setup (hwaiting.untouched hflushed) _ _ _ ?_)
    rw [hworld]
    exact hlater

/-- **What a send takes in first.**  A send that takes anything in takes in what the host has first
for it, and has taken in nothing before. -/
theorem meets_sendThrough (s : Session σ) (connection : Nat) (password text : String)
    (herror : s.inbox.streamError = none)
    (h : host.firstAnswer setup connection text s.world = some d) :
    Meets setup.width d (s.begun setup text)
      (s.sendThrough host setup connection password text).2 := by
  have hwaiting : IsWaiting (s.begun setup text) := ⟨rfl, rfl, herror⟩
  have hsame : (s.begun setup text).world = s.world := rfl
  have hnoted : Untouched (s.begun setup text)
      ((s.begun setup text).note [.wrote connection (text ++ "\r")]) := .wrote _ connection _
  rcases Reply.first_cases h with ⟨rest, hfirst⟩ | ⟨hnone, hok, hlater⟩
  · exact (Meets.after hnoted (meets_absorb _ hfirst)).talks
      (talks_writeTo_sendThrough host setup s connection password text)
  · have hwritten : Untouched (s.begun setup text)
        ((s.begun setup text).writeTo host setup connection (text ++ "\r")).2 :=
      hnoted.trans (untouched_absorb _ hnone)
    have hworld : ((s.begun setup text).writeTo host setup connection (text ++ "\r")).2.world =
        (host.write connection (text ++ "\r") s.world).world := by
      rw [writeTo, hsame, absorb, hnone]
      rfl
    have hafter : s.sendThrough host setup connection password text =
        ((s.begun setup text).writeTo host setup connection (text ++ "\r")).2.afterWrite host setup
          connection password text := by
      rw [sendThrough_eq_afterWrite, writeTo, hsame, hok]
    rw [hafter]
    refine .after hwritten (meets_afterWrite host setup (hwaiting.untouched hwritten) _ _ _ ?_)
    rw [hworld]
    exact hlater

end Send

end Session

end ScriptedShell.Remote
