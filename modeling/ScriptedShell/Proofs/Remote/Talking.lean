/-
# Talking through a connection

Connections come and go by three activities: one is asked for, one is granted, and one is closed.
Whatever a session does besides is talking (`IsTalk`), and so is everything that comes in.  A
session that only talks keeps the connection that it holds, and the handlers of all connections
that it has ever asked for (`Talks`).
-/
import Mathlib
import ScriptedShell.Proofs.Remote.Holding

namespace ScriptedShell.Remote

open Inbox Text

/-- Whether an activity neither asks for a connection, nor is granted one, nor closes one. -/
def IsTalk : Activity → Prop
  | .opening .. | .opened _ | .closed _ => False
  | _ => True

namespace Inbox

variable {width : Nat}

/-! ## What comes in -/

/-- Handling a line is talking. -/
theorem isTalk_handleLine (b : Inbox) (text : List Char) :
    ∀ a ∈ (b.handleLine width text).2, IsTalk a := by
  intro a ha
  rw [handleLine] at ha
  dsimp only at ha
  split_ifs at ha
  · exact absurd ha List.not_mem_nil
  · rcases List.mem_cons.mp ha with rfl | ha
    · trivial
    · obtain ⟨entry, rfl⟩ := shown_of_mem_display ha
      trivial

/-- Handling lines is talking. -/
theorem isTalk_handleLines (b : Inbox) (texts : List (List Char)) :
    ∀ a ∈ (b.handleLines width texts).2, IsTalk a := by
  induction texts generalizing b with
  | nil => exact fun a ha => absurd ha List.not_mem_nil
  | cons text rest ih => exact List.forall_mem_append.mpr ⟨isTalk_handleLine b text, ih _⟩

/-- Handling what stands after the last break is talking. -/
theorem isTalk_handleTail (b : Inbox) : ∀ a ∈ (b.handleTail width).2, IsTalk a := by
  intro a ha
  rw [handleTail] at ha
  dsimp only at ha
  split_ifs at ha
  · exact absurd ha List.not_mem_nil
  · exact isTalk_handleLine _ _ a ha
  · exact absurd ha List.not_mem_nil

/-- Receiving a chunk is talking. -/
theorem isTalk_receive (generation : Nat) (bytes : List UInt8) (b : Inbox) :
    ∀ a ∈ (receive width generation bytes b).2, IsTalk a := by
  intro a ha
  rw [receive] at ha
  split_ifs at ha
  · rw [takeIn] at ha
    rcases List.mem_append.mp ha with ha | ha
    · exact isTalk_handleLines _ _ a ha
    · exact isTalk_handleTail _ a ha
  · exact absurd ha List.not_mem_nil

/-- A failure of the stream is talking. -/
theorem isTalk_fail (generation : Nat) (cause : Failure) (b : Inbox) :
    ∀ a ∈ (fail generation cause b).2, IsTalk a := by
  intro a ha
  rw [fail] at ha
  split_ifs at ha
  · rcases List.mem_cons.mp ha with rfl | ha
    · trivial
    · obtain rfl := List.mem_singleton.mp ha
      trivial
  · exact absurd ha List.not_mem_nil

end Inbox

namespace Session

variable {σ : Type}

/-- Whether a session has come to another one by talking only. -/
structure Talks (s t : Session σ) : Prop where
  grows : Grows IsTalk s.trace t.trace
  channel_eq : t.channel = s.channel
  handlers_eq : t.handlers = s.handlers

namespace Talks

variable {s t u : Session σ} {acts : List Activity}

/-- A session that does nothing talks. -/
theorem refl (s : Session σ) : Talks s s := ⟨.refl s.trace, rfl, rfl⟩

/-- A session that has talked goes on talking. -/
theorem trans (h : Talks s t) (h' : Talks t u) : Talks s u where
  grows := h.grows.trans h'.grows
  channel_eq := h'.channel_eq.trans h.channel_eq
  handlers_eq := h'.handlers_eq.trans h.handlers_eq

/-- Noting what is talk. -/
theorem note (s : Session σ) (h : ∀ a ∈ acts, IsTalk a) : Talks s (s.note acts) :=
  ⟨⟨acts, rfl, h⟩, rfl, rfl⟩

/-- Noting one thing that is talk. -/
theorem single (s : Session σ) {a : Activity} (h : IsTalk a) : Talks s (s.note [a]) :=
  .note s (List.forall_mem_singleton.mpr h)

/-- What becomes of the inbox and of the world does not matter. -/
theorem within (s : Session σ) (inbox : Inbox) (world : σ) :
    Talks s { s with inbox, world } := ⟨.refl s.trace, rfl, rfl⟩

end Talks

/-! ## Deliveries -/

variable (width : Nat)

/-- Taking in a signal is talk. -/
theorem talks_accept (s : Session σ) (generation : Nat) (signal : Signal) :
    Talks s (s.accept width generation signal) := by
  cases signal with
  | data bytes => exact ⟨⟨_, rfl, isTalk_receive generation bytes s.inbox⟩, rfl, rfl⟩
  | broken cause => exact ⟨⟨_, rfl, isTalk_fail generation cause s.inbox⟩, rfl, rfl⟩

/-- A delivery is talk. -/
theorem talks_deliver (s : Session σ) (d : Delivery) : Talks s (s.deliver width d) := by
  rw [deliver]
  split
  · exact talks_accept width s _ d.signal
  · exact .refl s

/-- Deliveries are talk. -/
theorem talks_deliverAll (s : Session σ) (ds : List Delivery) :
    Talks s (s.deliverAll width ds) := by
  induction ds generalizing s with
  | nil => exact .refl s
  | cons d ds ih => exact (talks_deliver width s d).trans (ih (s.deliver width d))

/-- The answer to a call is talk. -/
theorem talks_absorb (s : Session σ) (r : Reply σ) : Talks s (s.absorb width r) :=
  (Talks.within s s.inbox r.world).trans (talks_deliverAll width _ r.deliveries)

/-! ## Waits -/

/-- A wait for the prompt is talk. -/
theorem talks_waitForPrompt (s : Session σ) (arrivals : Arrivals σ) :
    Talks s (s.waitForPrompt width arrivals).2 := by
  induction arrivals generalizing s with
  | nothing world =>
    rw [waitForPrompt, promptFound]
    split_ifs
    · exact .within s _ s.world
    · cases s.inbox.streamError with
      | none => exact .within s s.inbox world
      | some reason => exact .refl s
  | batch deliveries world rest ih =>
    rw [waitForPrompt, promptFound]
    split_ifs
    · exact .within s _ s.world
    · cases s.inbox.streamError with
      | none =>
        have harrived := talks_deliverAll width { s with world } deliveries
        exact (Talks.within s s.inbox world).trans (harrived.trans (ih _))
      | some reason => exact .refl s

/-- A wait for a request for the password is talk. -/
theorem talks_waitForCue (s : Session σ) (arrivals : Arrivals σ) :
    Talks s (s.waitForCue width arrivals).2 := by
  induction arrivals generalizing s with
  | nothing world =>
    rw [waitForCue, cueFound]
    split_ifs
    · exact .refl s
    · exact .within s _ s.world
    · exact .within s _ world
  | batch deliveries world rest ih =>
    rw [waitForCue, cueFound]
    split_ifs
    · exact .refl s
    · exact .within s _ s.world
    · have harrived := talks_deliverAll width { s with world } deliveries
      exact (Talks.within s s.inbox world).trans (harrived.trans (ih _))

/-! ## Calls -/

variable (host : Host σ) (setup : Setup)

/-- A moment of the session's own is talk. -/
theorem talks_pause (s : Session σ) (m : Moment) : Talks s (s.pause host setup m) :=
  (Talks.within s s.inbox (host.pause m s.world).2).trans
    (talks_deliverAll setup.width _ (host.pause m s.world).1)

/-- Writing is talk. -/
theorem talks_writeTo (s : Session σ) (connection : Nat) (text : String) :
    Talks s (s.writeTo host setup connection text).2 :=
  (Talks.single s (a := .wrote connection text) trivial).trans (talks_absorb setup.width _ _)

/-- Flushing is talk. -/
theorem talks_flush (s : Session σ) (connection : Nat) :
    Talks s (s.flush host setup connection).2 :=
  (Talks.single s (a := .flushed connection) trivial).trans (talks_absorb setup.width _ _)

/-- Writing a line of input and flushing the connection is talk. -/
theorem talks_enter (s : Session σ) (connection : Nat) (text : String) :
    Talks s (s.enter host setup connection text).2 := by
  have hwrite := talks_writeTo host setup s connection (text ++ "\r")
  rw [enter]
  split
  · next heq => rwa [heq] at hwrite
  · next t heq =>
    rw [heq] at hwrite
    exact hwrite.trans (talks_flush host setup t connection)

/-- Waiting for the prompt and collecting the output is talk. -/
theorem talks_awaitOutput (s : Session σ) : Talks s (s.awaitOutput host setup).2 := by
  have hwait := talks_waitForPrompt setup.width s (host.await none s.world)
  rw [awaitOutput]
  split
  · next t heq =>
    rw [heq] at hwait
    exact hwait.trans ((talks_pause host setup t .collecting).trans (.within _ _ _))
  · next heq => rwa [heq] at hwait
  · next heq => rwa [heq] at hwait

/-- Waiting for a request for the password and answering it is talk. -/
theorem talks_answerCue (s : Session σ) (connection : Nat) (password : String) :
    Talks s (s.answerCue host setup connection password).2 := by
  have hwait := talks_waitForCue setup.width s
    (host.await (some setup.settings.cueTimeout) s.world)
  rw [answerCue]
  split
  · next t heq =>
    rw [heq] at hwait
    exact hwait.trans ((talks_pause host setup t .answering).trans (talks_enter host setup _ _ _))
  · next t heq =>
    rw [heq] at hwait
    exact hwait.trans (talks_pause host setup t .resuming)

/-- What a session does once a line is written and flushed. -/
def afterEntry (s : Session σ) (connection : Nat) (password text : String) : Sent × Session σ :=
  if contains text setup.settings.sudoMarker then
    match s.answerCue host setup connection password with
    | (some cause, s) => (.failed cause, s)
    | (none, s) => s.awaitOutput host setup
  else s.awaitOutput host setup

/-- What follows the writing of a line is talk. -/
theorem talks_afterEntry (s : Session σ) (connection : Nat) (password text : String) :
    Talks s (s.afterEntry host setup connection password text).2 := by
  rw [afterEntry]
  split_ifs
  · have hanswer := talks_answerCue host setup s connection password
    split
    · next heq => rwa [heq] at hanswer
    · next t heq =>
      rw [heq] at hanswer
      exact hanswer.trans (talks_awaitOutput host setup t)
  · exact talks_awaitOutput host setup s

/-- Sending a line through a connection: the line is noted and entered, and then the session waits. -/
theorem sendThrough_eq_afterEntry (s : Session σ) (connection : Nat) (password text : String) :
    s.sendThrough host setup connection password text =
      match (s.begun setup text).enter host setup connection text with
      | (some cause, s) => (.failed cause, s)
      | (none, s) => s.afterEntry host setup connection password text := rfl

/-- Sending is talk. -/
theorem talks_send (s : Session σ) (text : String) : Talks s (s.send host setup text).2 := by
  rw [send]
  split
  · next endpoint connection _ _ =>
    split
    · exact .refl s
    · have hbegun : Talks s (s.begun setup (trimmed text)) :=
        (Talks.within s _ s.world).trans (.single _ trivial)
      have henter :=
        talks_enter host setup (s.begun setup (trimmed text)) connection (trimmed text)
      rw [sendThrough_eq_afterEntry]
      split
      · next heq =>
        rw [heq] at henter
        exact hbegun.trans henter
      · next t heq =>
        rw [heq] at henter
        exact hbegun.trans (henter.trans (talks_afterEntry host setup t _ _ _))
  · exact .refl s

/-- Beginning fixed-row mode is talk. -/
theorem talks_enterRedraw (s : Session σ) (row : Option Nat) :
    Talks s (s.enterRedraw host setup row).2 := by
  rw [enterRedraw]
  split_ifs
  · have hclear : Talks s (s.display .clear) := .single s trivial
    exact hclear.trans ((talks_pause host setup _ .drawing).trans (.within _ _ _))
  · exact .refl s

end Session

end ScriptedShell.Remote
