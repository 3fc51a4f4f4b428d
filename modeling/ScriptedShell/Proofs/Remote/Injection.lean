/-
# What a send writes

A send writes its line, and after it the password at most once.  The password is written only after
a line has been heard that asks for it, is not the line that was sent, and comes before any prompt
(`Arrives.requestedBefore`).  Conversely a request that is heard before the wait for it gives up,
with no prompt and no failure of the stream before it, is always found (`waitForCue_of_requested`).
The main statement has both directions.
-/
import Mathlib
import ScriptedShell.Proofs.Remote.Answer

namespace ScriptedShell.Remote

open Text

/-! ## Requests in a trace -/

/-- What a trace writes to connections, in order. -/
def writes (acts : List Activity) : List (Nat × String) :=
  acts.filterMap fun
    | .wrote connection text => some (connection, text)
    | _ => none

@[simp] theorem writes_nil : writes [] = [] := rfl

@[simp] theorem writes_append (x y : List Activity) : writes (x ++ y) = writes x ++ writes y :=
  List.filterMap_append

/-- A trace without writes writes nothing. -/
theorem writes_eq_nil {acts : List Activity} (h : ∀ c text, .wrote c text ∉ acts) :
    writes acts = [] := by
  rw [writes, List.filterMap_eq_nil_iff]
  intro a ha
  cases a with
  | wrote c text => exact absurd ha (h c text)
  | _ => rfl

/-- Whether an activity is a line heard that asks for the password and is not the line sent. -/
def Requests (cue sent : String) (a : Activity) : Prop :=
  ∃ line kind, a = .heard line kind ∧ isPasswordCue line cue = true ∧ line ≠ sent

/-- Whether an activity is a prompt heard. -/
def IsPrompt (a : Activity) : Prop := ∃ line, a = .heard line .prompt

/-- Whether an activity is a prompt heard or a failure of the stream. -/
def Disturbs (a : Activity) : Prop := IsPrompt a ∨ ∃ cause, a = .broke cause

/-- Whether a request for the password is heard in a trace before anything that stops it. -/
def RequestedBefore (stop : Activity → Prop) (cue sent : String) (acts : List Activity) : Prop :=
  ∃ before request after, acts = before ++ request :: after ∧ Requests cue sent request ∧
    ∀ a ∈ before, ¬ stop a

section RequestedBefore

variable {stop : Activity → Prop} {cue sent : String} {acts : List Activity}

/-- Nothing is requested in an empty trace. -/
theorem not_requestedBefore_nil : ¬ RequestedBefore stop cue sent [] := by
  rintro ⟨before, request, after, heq, -, -⟩
  cases before <;> cases heq

/-- The first activity of a trace is the request, or does not stop the one that follows. -/
theorem RequestedBefore.of_cons {a : Activity}
    (h : RequestedBefore stop cue sent (a :: acts)) :
    Requests cue sent a ∨ (¬ stop a ∧ RequestedBefore stop cue sent acts) := by
  obtain ⟨before, request, after, heq, hrequest, hbefore⟩ := h
  cases before with
  | nil =>
    cases heq
    exact .inl hrequest
  | cons b before =>
    cases heq
    have hcalm : ¬ stop a := hbefore a List.mem_cons_self
    exact .inr ⟨hcalm, before, request, after, rfl, hrequest,
      fun c hc => hbefore c (List.mem_cons_of_mem _ hc)⟩

/-- A request is heard in the first part of a trace, or nothing there stops the one that
follows. -/
theorem RequestedBefore.of_append {x y : List Activity}
    (h : RequestedBefore stop cue sent (x ++ y)) :
    RequestedBefore stop cue sent x ∨
      ((∀ a ∈ x, ¬ stop a) ∧ RequestedBefore stop cue sent y) := by
  induction x with
  | nil => exact .inr ⟨fun a ha => absurd ha List.not_mem_nil, h⟩
  | cons a x ih =>
    rcases h.of_cons with hrequest | ⟨hcalm, hrest⟩
    · exact .inl ⟨[], a, x, rfl, hrequest, fun b hb => absurd hb List.not_mem_nil⟩
    · rcases ih hrest with ⟨before, request, after, rfl, hrequest, hbefore⟩ | ⟨hx, hy⟩
      · refine .inl ⟨a :: before, request, after, rfl, hrequest, ?_⟩
        intro b hb
        rcases List.mem_cons.mp hb with rfl | hb
        · exact hcalm
        · exact hbefore b hb
      · refine .inr ⟨?_, hy⟩
        intro b hb
        rcases List.mem_cons.mp hb with rfl | hb
        · exact hcalm
        · exact hx b hb

/-- A request that comes before everything of a kind comes before everything of a smaller one. -/
theorem RequestedBefore.mono {stop' : Activity → Prop} (himp : ∀ a, stop' a → stop a)
    (h : RequestedBefore stop cue sent acts) : RequestedBefore stop' cue sent acts := by
  obtain ⟨before, request, after, heq, hrequest, hbefore⟩ := h
  exact ⟨before, request, after, heq, hrequest, fun a ha hstop => hbefore a ha (himp a hstop)⟩

/-- No prompt is heard where nothing is one. -/
theorem linesHeard_prompt_eq_nil (h : ∀ a ∈ acts, ¬ IsPrompt a) :
    linesHeard .prompt acts = [] := by
  rw [linesHeard, List.filterMap_eq_nil_iff]
  intro a ha
  cases a with
  | heard line kind =>
    rw [heardAs, if_neg]
    rintro rfl
    exact h _ ha ⟨line, rfl⟩
  | _ => rfl

end RequestedBefore

namespace Inbox.Arrives

variable {width : Nat} {b b' : Inbox} {acts : List Activity}

/-- A stream that does not fail keeps the failure that is known of it. -/
theorem streamError_eq (h : Arrives width b acts b') (hcalm : ∀ cause, .broke cause ∉ acts) :
    b'.streamError = b.streamError := by
  induction h with
  | done b => rfl
  | hold bytes _ ih => exact ih hcalm
  | @line b b' acts text _ _ ih =>
    have hrest : ∀ cause, .broke cause ∉ acts := fun cause hmem =>
      hcalm cause (List.mem_cons_of_mem _ (List.mem_append_right _ hmem))
    rw [ih hrest]
    cases b.classify text <;> rfl
  | broke cause _ _ => exact absurd List.mem_cons_self (hcalm cause)
  | call a _ _ ih => exact ih fun cause hmem => hcalm cause (List.mem_cons_of_mem _ hmem)

/-- While a request for the password is awaited, the first line that is one and comes before any
prompt is taken for it. -/
theorem cue_heard (h : Arrives width b acts b') (hwait : b.awaitingCue = true) {sent : String}
    (hsent : b.lastSent = some sent) (hasked : RequestedBefore IsPrompt b.passwordCue sent acts) :
    linesHeard .cue acts ≠ [] := by
  induction h with
  | done b => exact absurd hasked not_requestedBefore_nil
  | hold bytes _ ih => exact ih hwait hsent hasked
  | @line b b' acts text _ _ ih =>
    rw [linesHeard_cons_heard, linesHeard_append, linesHeard_display, List.nil_append]
    rcases hasked.of_cons with ⟨line, kind, heq, hcue, hother⟩ | ⟨hcalm, hrest⟩
    · -- the line is the request, and it is taken for one since one is awaited
      cases heq
      have hecho : b.lastSent ≠ some text := by
        rw [hsent]
        exact fun hsame => hother (Option.some.inj hsame).symm
      have hkind : b.classify text = .cue := by
        rw [classify, if_neg hecho, if_pos (by rw [hwait, hcue]; rfl)]
      rw [if_pos hkind]
      exact List.cons_ne_nil _ _
    · have hlater : RequestedBefore IsPrompt b.passwordCue sent acts := by
        rcases hrest.of_append with ⟨before, request, after, heq, hrequest, -⟩ | ⟨-, hlater⟩
        · obtain ⟨line, kind, rfl, -, -⟩ := hrequest
          have hmem : .heard line kind ∈ b.display width text (b.classify text) := by
            rw [heq]
            exact List.mem_append_right _ List.mem_cons_self
          obtain ⟨entry, hentry⟩ := shown_of_mem_display hmem
          cases hentry
        · exact hlater
      cases hk : b.classify text with
      | cue =>
        rw [if_pos rfl]
        exact List.cons_ne_nil _ _
      | prompt => exact absurd ⟨text, by rw [hk]⟩ hcalm
      | echo =>
        rw [hk] at ih
        rw [if_neg (by decide)]
        exact ih hwait hsent hlater
      | output =>
        rw [hk] at ih
        rw [if_neg (by decide)]
        exact ih hwait hsent hlater
  | broke cause _ ih =>
    rcases hasked.of_cons with ⟨line, kind, heq, -⟩ | ⟨-, hrest⟩
    · cases heq
    · rcases hrest.of_cons with ⟨line, kind, heq, -⟩ | ⟨-, hlater⟩
      · cases heq
      · exact ih hwait hsent hlater
  | call a ha _ ih =>
    rcases hasked.of_cons with ⟨line, kind, rfl, -⟩ | ⟨-, hlater⟩
    · obtain ⟨c, hc | hc | hc⟩ := ha <;> cases hc
    · obtain ⟨c, rfl | rfl | rfl⟩ := ha <;> exact ih hwait hsent hlater

/-- A request for the password that is found was heard before any prompt, reads as one, and is not
the line that was sent. -/
theorem requestedBefore (h : Arrives width b acts b') {sent : String}
    (hsent : b.lastSent = some sent) (hcue : linesHeard .cue acts ≠ []) :
    RequestedBefore IsPrompt b.passwordCue sent acts := by
  obtain ⟨-, before, request, after, rfl, hbefore⟩ := h.cue_first hcue
  have hfits := (h.fits (List.mem_append_right _ List.mem_cons_self)).2
  obtain ⟨hother, hreads⟩ : b.lastSent ≠ some request ∧ isPasswordCue request b.passwordCue :=
    hfits
  refine ⟨before, .heard request .cue, after, rfl, ⟨request, .cue, rfl, hreads, ?_⟩, ?_⟩
  · rintro rfl
    exact hother hsent
  · rintro a ha ⟨line, rfl⟩
    have hnone : heardAs .prompt (.heard line .prompt) = none :=
      List.filterMap_eq_nil_iff.mp hbefore _ ha
    simp [heardAs] at hnone

end Inbox.Arrives

namespace Session

open Inbox

variable {σ : Type} (host : Host σ) (setup : Setup)

/-! ## Finding a request -/

/-- The session when the first batches of a wait have arrived, whatever the wait finds when it
looks between them. -/
def arrived (s : Session σ) (width : Nat) : Nat → Arrivals σ → Session σ
  | n + 1, .batch deliveries world more =>
    arrived ({ s with world }.deliverAll width deliveries) width n more
  | _, _ => s

/-- The batches of a wait are deliveries. -/
theorem delivers_arrived (width : Nat) (s : Session σ) (n : Nat) (arrivals : Arrivals σ) :
    ∃ acts, Delivers width s acts (s.arrived width n arrivals) := by
  induction arrivals generalizing s n with
  | nothing world => cases n <;> exact ⟨[], .none s s.world⟩
  | batch deliveries world more ih =>
    cases n with
    | zero => exact ⟨[], .none s s.world⟩
    | succ n =>
      obtain ⟨x, hx⟩ := delivers_deliverAll width { s with world } deliveries
      obtain ⟨y, hy⟩ := ih ({ s with world }.deliverAll width deliveries) n
      exact ⟨x ++ y, ((Delivers.none s world).trans hx).trans hy⟩

/-- Without a prompt and without a failure of the stream a session knows of neither. -/
theorem undisturbed_of_delivers {width : Nat} {s₀ s : Session σ} {x : List Activity}
    (hx : Delivers width s₀ x s) (hcalm : ∀ a ∈ x, ¬ Disturbs a)
    (hprompt : s₀.inbox.promptSeen = false) (herror : s₀.inbox.streamError = none) :
    s.inbox.promptSeen = false ∧ s.inbox.streamError = none := by
  constructor
  · rw [hx.arrives.promptSeen_eq, hprompt,
      linesHeard_prompt_eq_nil fun a ha hstop => hcalm a ha (.inl hstop)]
    rfl
  · rw [hx.arrives.streamError_eq fun cause hmem => hcalm _ hmem (.inr ⟨cause, rfl⟩)]
    exact herror

/-- A wait finds a request for the password that is heard in one of its batches, or was heard
before it, with no prompt and no failure of the stream before the request. -/
theorem waitForCue_of_requested {width : Nat} {s₀ s : Session σ} {x : List Activity}
    (hx : Delivers width s₀ x s) (hwait : s₀.inbox.awaitingCue = true)
    (hprompt : s₀.inbox.promptSeen = false) (herror : s₀.inbox.streamError = none) {sent : String}
    (hsent : s₀.inbox.lastSent = some sent) (arrivals : Arrivals σ) {n : Nat}
    {y : List Activity} (hy : (s.arrived width n arrivals).trace = s₀.trace ++ y)
    (hasked : RequestedBefore Disturbs s₀.inbox.passwordCue sent y) :
    (s.waitForCue width arrivals).1 = true := by
  -- a session that has heard a request reports it as soon as the wait looks
  have hfound : ∀ {t : Session σ} {z : List Activity}, Delivers width s₀ z t →
      RequestedBefore Disturbs s₀.inbox.passwordCue sent z → t.inbox.cueSeen = true := by
    intro t z hz hrequested
    have hheard := hz.arrives.cue_heard hwait hsent (hrequested.mono fun a ha => .inl ha)
    rw [hz.arrives.cueSeen_eq]
    simp [hheard]
  induction arrivals generalizing s x n with
  | nothing world =>
    have hsame : s.arrived width n (.nothing world) = s := by cases n <;> rfl
    rw [hsame, hx.trace_eq] at hy
    obtain rfl := List.append_cancel_left hy
    rw [waitForCue, cueFound, if_pos (hfound hx hasked)]
    rfl
  | batch deliveries world more ih =>
    rw [waitForCue, cueFound]
    by_cases hcue : s.inbox.cueSeen = true
    · rw [if_pos hcue]
    · cases n with
      | zero =>
        have hsame : s.arrived width 0 (.batch deliveries world more) = s := rfl
        rw [hsame, hx.trace_eq] at hy
        obtain rfl := List.append_cancel_left hy
        exact absurd (hfound hx hasked) hcue
      | succ n =>
        obtain ⟨z, hz⟩ := delivers_deliverAll width { s with world } deliveries
        have hnext : Delivers width s₀ (x ++ z) ({ s with world }.deliverAll width deliveries) :=
          hx.trans ((Delivers.none s world).trans hz)
        have hcalm : ∀ a ∈ x, ¬ Disturbs a := by
          obtain ⟨rest, hrest⟩ :=
            delivers_arrived width s (n + 1) (.batch deliveries world more)
          rw [hrest.trace_eq, hx.trace_eq, List.append_assoc] at hy
          obtain rfl := List.append_cancel_left hy
          rcases hasked.of_append with hearly | ⟨hcalm, -⟩
          · exact absurd (hfound hx hearly) hcue
          · exact hcalm
        obtain ⟨hnone, hwell⟩ := undisturbed_of_delivers hx hcalm hprompt herror
        rw [if_neg hcue, hnone, hwell]
        exact ih hnext hy

/-! ## What a send writes -/

section Writes

variable {host setup} {s t : Session σ} {acts : List Activity} {sent : Sent} {width : Nat}

/-- Deliveries write nothing. -/
theorem Delivers.writes_eq (h : Delivers width s acts t) : writes acts = [] :=
  writes_eq_nil h.not_mem_wrote

/-- Nothing is written after the last write. -/
theorem Finish.writes_eq (h : Finish setup s acts sent t) : writes acts = [] :=
  writes_eq_nil h.not_mem_wrote

variable {connection : Nat} {password text : String} {asked : Option (Session σ)}

/-- A send writes the password once if a request for it was found, and otherwise nothing more. -/
theorem SendRun.writes_eq (h : SendRun host setup s connection password text asked acts sent t) :
    writes acts = if asked.isSome then [(connection, password ++ "\r")] else [] := by
  cases h with
  | plain hx hfin => rw [writes_append, hx.writes_eq, hfin.writes_eq]; rfl
  | declined hx _ hy hfin =>
    rw [writes_append, writes_append, hx.writes_eq, hy.writes_eq, hfin.writes_eq]
    rfl
  | @answered w t u x y z z' sent hx _ hy hz hfin =>
    have hend : writes (.wrote connection (password ++ "\r") :: (z ++ z')) =
        (connection, password ++ "\r") :: writes (z ++ z') := rfl
    rw [writes_append, writes_append, hx.writes_eq, hy.writes_eq, hend, writes_append,
      hz.writes_eq, hfin.writes_eq]
    rfl

/-- A session that is about to answer has heard a request since the line was written, which is the
only thing written so far. -/
theorem SendRun.requestedBefore {w : Session σ}
    (h : SendRun host setup s connection password text (some w) acts sent t) :
    ∃ heard late, acts = heard ++ late ∧ writes heard = [] ∧
      w.trace = s.trace ++ .sending text :: .wrote connection (text ++ "\r") :: heard ∧
      RequestedBefore IsPrompt s.inbox.passwordCue text heard := by
  cases h with
  | @answered _ t u x y z z' sent hx hcue hy hz hfin =>
    have hheard : linesHeard .cue x ≠ [] := by
      have hseen : w.inbox.cueSeen = !(linesHeard .cue x).isEmpty := hx.arrives.cueSeen_eq
      simpa [hcue] using hseen
    refine ⟨x, _, rfl, hx.writes_eq, ?_, hx.arrives.requestedBefore rfl hheard⟩
    rw [hx.trace_eq]
    simp [note, begun]

end Writes

/-- Whether a send is asked for the password in time: it is privileged, its line is written and
the connection flushed, and until the wait for a request gives up one is heard, with no prompt and
no failure of the stream before it. -/
def AskedInTime (s : Session σ) (connection : Nat) (text : String) : Prop :=
  s.inbox.streamError = none ∧ contains text setup.settings.sudoMarker = true ∧
    ∃ t, (s.begun setup text).enter host setup connection text = (none, t) ∧
      ∃ n heard, (t.arrived setup.width n
          (host.await (some setup.settings.cueTimeout) t.world)).trace = s.trace ++ heard ∧
        RequestedBefore Disturbs s.inbox.passwordCue text heard

/-- A send that is asked for the password in time comes to answer. -/
theorem AskedInTime.asked_isSome {s : Session σ} {connection : Nat} {text : String}
    (h : AskedInTime host setup s connection text) :
    (s.asked? host setup connection text).isSome = true := by
  obtain ⟨herror, hprivileged, t, henter, n, heard, htrace, hasked⟩ := h
  obtain ⟨x, hx⟩ := delivers_enter host setup (s.begun setup text) connection text
  rw [henter] at hx
  obtain ⟨y, hy⟩ := delivers_arrived setup.width t n
    (host.await (some setup.settings.cueTimeout) t.world)
  have hheard : heard = .sending text :: .wrote connection (text ++ "\r") :: (x ++ y) := by
    rw [hy.trace_eq, hx.trace_eq, begun, note, note] at htrace
    simpa [List.append_assoc, eq_comm] using htrace
  -- neither the note nor the write of the line is the request
  have hlater : RequestedBefore Disturbs s.inbox.passwordCue text (x ++ y) := by
    rw [hheard] at hasked
    rcases hasked.of_cons with ⟨line, kind, heq, -⟩ | ⟨-, hrest⟩
    · cases heq
    · rcases hrest.of_cons with ⟨line, kind, heq, -⟩ | ⟨-, hlater⟩
      · cases heq
      · exact hlater
  have hfound := waitForCue_of_requested hx (by exact hprivileged) rfl herror rfl
    (host.await (some setup.settings.cueTimeout) t.world)
    (hy.trace_eq.trans (by rw [hx.trace_eq, List.append_assoc])) hlater
  rw [asked?, henter]
  dsimp only
  rw [if_pos hprivileged]
  rcases hwait : t.waitForCue setup.width
      (host.await (some setup.settings.cueTimeout) t.world) with ⟨found, w⟩
  rw [hwait] at hfound
  cases hfound
  rfl

/-- A send that comes to answer is privileged. -/
theorem contains_of_asked {s w : Session σ} {connection : Nat} {text : String}
    (h : s.asked? host setup connection text = some w) :
    contains text setup.settings.sudoMarker = true := by
  rw [asked?] at h
  split at h
  · cases h
  · split_ifs at h with hprivileged
    exact hprivileged

/-! ## The main statement -/

/-- **What a send writes.**  A send through a connection writes nothing, or its line, or its line
and then the password; on a session whose stream has failed it writes nothing.  It writes the
password only if its line is privileged and, with nothing but the line written and the wait for a
request not over, a line was heard that asks for the password, is not the line sent and comes
before any prompt.  And it writes the password whenever it is asked for it in time. -/
theorem writes_send (s : Session σ) {endpoint : Endpoint} {connection : Nat}
    (hendpoint : s.endpoint = some endpoint) (hchannel : s.channel = some connection)
    (text : String) :
    ∃ acts, (s.send host setup text).2.trace = s.trace ++ acts ∧
      (writes acts = [] ∨ writes acts = [(connection, trimmed text ++ "\r")] ∨
        writes acts = [(connection, trimmed text ++ "\r"),
          (connection, endpoint.password ++ "\r")]) ∧
      (s.inbox.streamError.isSome = true → writes acts = []) ∧
      (writes acts = [(connection, trimmed text ++ "\r"),
          (connection, endpoint.password ++ "\r")] →
        contains (trimmed text) setup.settings.sudoMarker = true ∧
          ∃ w heard late, s.answering? host setup text = some w ∧
            w.trace = s.trace ++ heard ∧ acts = heard ++ late ∧
            writes heard = [(connection, trimmed text ++ "\r")] ∧
            RequestedBefore IsPrompt s.inbox.passwordCue (trimmed text) heard) ∧
      (AskedInTime host setup s connection (trimmed text) →
        writes acts = [(connection, trimmed text ++ "\r"),
          (connection, endpoint.password ++ "\r")]) := by
  rw [send, answering?, hendpoint, hchannel]
  cases herror : s.inbox.streamError with
  | some reason =>
    refine ⟨[], (List.append_nil _).symm, .inl rfl, fun _ => rfl, by rintro ⟨⟩, ?_⟩
    rintro ⟨hnone, -⟩
    rw [herror] at hnone
    cases hnone
  | none =>
    obtain ⟨acts, hrun⟩ :=
      sendRun_sendThrough host setup s connection endpoint.password (trimmed text)
    have hwrites : writes (.sending (trimmed text) ::
        .wrote connection (trimmed text ++ "\r") :: acts) =
          (connection, trimmed text ++ "\r") :: writes acts := rfl
    refine ⟨_, hrun.trace_eq, ?_, by rintro ⟨⟩, ?_, ?_⟩
    · rw [hwrites, hrun.writes_eq]
      split_ifs
      · exact .inr (.inr rfl)
      · exact .inr (.inl rfl)
    · rw [hwrites, hrun.writes_eq]
      intro hboth
      cases hasked : s.asked? host setup connection (trimmed text) with
      | none => simp [hasked] at hboth
      | some w =>
        rw [hasked] at hrun
        obtain ⟨heard, late, rfl, hnothing, htrace, hrequested⟩ := hrun.requestedBefore
        refine ⟨contains_of_asked host setup hasked, w, _, late, hasked, htrace, rfl, ?_, ?_⟩
        · exact congrArg ((connection, trimmed text ++ "\r") :: ·) hnothing
        · obtain ⟨before, request, after, rfl, hrequest, hbefore⟩ := hrequested
          refine ⟨.sending (trimmed text) :: .wrote connection (trimmed text ++ "\r") :: before,
            request, after, rfl, hrequest, ?_⟩
          intro a ha
          rcases List.mem_cons.mp ha with rfl | ha
          · rintro ⟨line, heq⟩
            cases heq
          · rcases List.mem_cons.mp ha with rfl | ha
            · rintro ⟨line, heq⟩
              cases heq
            · exact hbefore a ha
    · intro hintime
      rw [hwrites, hrun.writes_eq, if_pos (hintime.asked_isSome host setup)]

/-- A privileged command that is asked for the password in time: it is written, and then the
password. -/
theorem writes_send_askedOnce :
    askedOnce.endpoint = some scriptedEndpoint ∧ askedOnce.channel = some 0 ∧
      AskedInTime scripted scriptedSetup askedOnce 0 "sudo id" ∧
      ∃ acts, (askedOnce.send scripted scriptedSetup "sudo id").2.trace =
          askedOnce.trace ++ acts ∧
        writes acts = [(0, "sudo id\r"), (0, "hunter2\r")] := by
  have hendpoint : askedOnce.endpoint = some scriptedEndpoint := by decide +kernel
  have hchannel : askedOnce.channel = some 0 := by decide +kernel
  have hintime : AskedInTime scripted scriptedSetup askedOnce 0 "sudo id" := by
    refine ⟨by decide +kernel, by decide +kernel, _, Prod.ext (by decide +kernel) rfl, 0,
      [.sending "sudo id", .wrote 0 "sudo id\r", .heard "sudo id" .echo,
        .heard "[sudo] password for deploy:" .cue, .flushed 0], by decide +kernel, ?_⟩
    refine ⟨[.sending "sudo id", .wrote 0 "sudo id\r", .heard "sudo id" .echo], _, [.flushed 0],
      rfl, ⟨_, .cue, rfl, by decide +kernel, by decide⟩, ?_⟩
    rintro a ha (⟨line, rfl⟩ | ⟨cause, rfl⟩) <;> simp at ha
  have htrimmed : trimmed "sudo id" = "sudo id" := by decide +kernel
  obtain ⟨acts, htrace, -, -, -, hanswered⟩ :=
    writes_send scripted scriptedSetup askedOnce hendpoint hchannel "sudo id"
  rw [htrimmed] at hanswered
  exact ⟨hendpoint, hchannel, hintime, acts, htrace, hanswered hintime⟩

end Session

end ScriptedShell.Remote
