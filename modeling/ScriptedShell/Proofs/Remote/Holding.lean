/-
# What the calls of a session note, and whether they leave it its connection

Every call of a session notes activities of its own kind only: it neither dispatches lines nor
starts files, and it asks nothing of the local shell or the copier (`IsRemote`).  A connection is
held once connecting has succeeded, all other calls but disconnecting leave it alone, and
disconnecting closes it.
-/
import Mathlib
import ScriptedShell.Proofs.Remote.Lifecycle

namespace ScriptedShell

/-! ## Traces that go on -/

/-- Whether a trace goes on with activities of a kind. -/
def Grows (P : Activity → Prop) (before after : List Activity) : Prop :=
  ∃ acts, after = before ++ acts ∧ ∀ a ∈ acts, P a

namespace Grows

variable {P Q : Activity → Prop} {x y z : List Activity}

/-- A trace goes on with nothing. -/
theorem refl (x : List Activity) : Grows P x x :=
  ⟨[], (List.append_nil x).symm, fun _ ha => absurd ha List.not_mem_nil⟩

/-- A trace goes on with one activity. -/
theorem single (x : List Activity) {a : Activity} (ha : P a) : Grows P x (x ++ [a]) :=
  ⟨[a], rfl, List.forall_mem_singleton.mpr ha⟩

/-- A trace that has gone on goes on. -/
theorem trans (h : Grows P x y) (h' : Grows P y z) : Grows P x z := by
  obtain ⟨acts, rfl, hacts⟩ := h
  obtain ⟨more, rfl, hmore⟩ := h'
  exact ⟨acts ++ more, List.append_assoc x acts more, List.forall_mem_append.mpr ⟨hacts, hmore⟩⟩

/-- Activities of a kind are activities of a wider one. -/
theorem mono (himp : ∀ a, P a → Q a) (h : Grows P x y) : Grows Q x y := by
  obtain ⟨acts, rfl, hacts⟩ := h
  exact ⟨acts, rfl, fun a ha => himp a (hacts a ha)⟩

end Grows

namespace Remote

open Inbox Text

/-- Whether an activity is one that a remote session may note: it does not dispatch a line, start a
file, or ask anything of the local shell or the copier. -/
def IsRemote : Activity → Prop
  | .invoked _ | .uploaded .. | .downloaded .. | .started .. | .dispatched _ => False
  | _ => True

/-- Deliveries are noted as a remote session's own. -/
theorem Inbox.Arrives.isRemote {width : Nat} {b b' : Inbox} {acts : List Activity}
    (h : Arrives width b acts b') : ∀ a ∈ acts, IsRemote a := by
  induction h with
  | done b => exact fun a ha => absurd ha List.not_mem_nil
  | hold bytes _ ih => exact ih
  | @line b b' acts text _ _ ih =>
    refine List.forall_mem_cons.mpr ⟨trivial, List.forall_mem_append.mpr ⟨?_, ih⟩⟩
    intro a hshown
    obtain ⟨entry, rfl⟩ := shown_of_mem_display hshown
    exact trivial
  | broke cause _ ih =>
    exact List.forall_mem_cons.mpr ⟨trivial, List.forall_mem_cons.mpr ⟨trivial, ih⟩⟩
  | call a ha _ ih =>
    refine List.forall_mem_cons.mpr ⟨?_, ih⟩
    obtain ⟨c, rfl | rfl | rfl⟩ := ha <;> exact trivial

namespace Session

variable {σ : Type}

/-! ## Growth -/

section Growth

variable (host : Host σ) (setup : Setup) {s t : Session σ} {acts : List Activity}

/-- Deliveries let the trace go on. -/
theorem Delivers.grows {width : Nat} (h : Delivers width s acts t) :
    Grows IsRemote s.trace t.trace := ⟨acts, h.trace_eq, h.arrives.isRemote⟩

/-- That the trace goes on holds along sends and attempts to connect. -/
theorem along_grows : Along setup fun s t : Session σ => Grows IsRemote s.trace t.trace where
  refl s := .refl s.trace
  trans h h' := h.trans h'
  delivers h := h.grows
  lower s := .refl s.trace
  giveUpCue s := .refl s.trace
  begun s _ := .single s.trace trivial
  wrote s _ _ := .single s.trace trivial
  collect s := .refl s.trace

/-- Connecting lets the trace go on. -/
theorem grows_connect (s : Session σ) (endpoint : Endpoint) :
    Grows IsRemote s.trace (s.connect host setup endpoint).2.trace := by
  cases hnone : s.endpoint with
  | some current =>
    rw [connect, hnone]
    exact .refl _
  | none =>
    have hattempt : ∀ t : Session σ, Grows IsRemote s.trace t.trace →
        (∃ u, t.attempt host setup endpoint = (true, u) ∧ Grows IsRemote s.trace u.trace) ∨
          ∃ u, t.attempt host setup endpoint = (false, u) ∧ Grows IsRemote s.trace u.trace := by
      intro t ht
      have hdialed : Grows IsRemote t.trace (t.dialed setup endpoint).trace := .single _ trivial
      obtain ⟨u, hgrows, heq | heq⟩ :=
        along_attempt host setup (along_grows setup).toAlongWaits t endpoint
      · exact .inr ⟨u, heq, ht.trans (hdialed.trans hgrows)⟩
      · exact .inl ⟨_, heq, ht.trans (hdialed.trans hgrows)⟩
    have hpause : ∀ t : Session σ, Grows IsRemote s.trace t.trace →
        Grows IsRemote s.trace (t.pause host setup .retrying).trace := by
      intro t ht
      obtain ⟨x, hx⟩ := delivers_pause host setup t .retrying
      exact ht.trans hx.grows
    rcases connect_cases (fun t _ ht => ht.trans (.single t.trace trivial)) hpause hattempt hnone
      (.refl s.trace) with ⟨t, heq, ht⟩ | ⟨t, cause, text, heq, ht⟩
    · rw [heq]
      exact ht.trans (.single t.trace trivial)
    · rw [heq]
      exact ht.trans (.single t.trace trivial)

/-- Beginning fixed-row mode lets the trace go on. -/
theorem grows_enterRedraw (s : Session σ) (row : Option Nat) :
    Grows IsRemote s.trace (s.enterRedraw host setup row).2.trace := by
  rw [enterRedraw]
  split_ifs
  · obtain ⟨x, hx⟩ := delivers_pause host setup (s.display .clear) .drawing
    have hclear : Grows IsRemote s.trace (s.display .clear).trace := .single _ trivial
    exact hclear.trans hx.grows
  · exact .refl _

end Growth

/-! ## Holding a connection -/

/-- Whether a session holds a connection and knows where it leads. -/
def Held (s : Session σ) : Prop := s.channel.isSome = true ∧ s.endpoint.isSome = true

section Holding

variable (host : Host σ) (setup : Setup) {s : Session σ}

/-- Successful connecting leaves a connection held. -/
theorem held_connect {endpoint : Endpoint} {s t : Session σ}
    (h : s.connect host setup endpoint = (none, t)) : Held t := by
  have hattempt : ∀ u : Session σ, True →
      (∃ v, u.attempt host setup endpoint = (true, v) ∧ Held v) ∨
        ∃ v, u.attempt host setup endpoint = (false, v) ∧ True := by
    intro u _
    obtain ⟨v, -, heq | heq⟩ :=
      along_attempt host setup (along_grows setup).toAlongWaits u endpoint
    · exact .inr ⟨v, heq, trivial⟩
    · exact .inl ⟨_, heq, rfl, rfl⟩
  cases hnone : s.endpoint with
  | some current =>
    rw [connect, hnone] at h
    cases h
  | none =>
    rcases connect_cases (fun _ _ => id) (fun _ => id) hattempt hnone trivial with
      ⟨u, heq, hheld⟩ | ⟨u, cause, text, heq, -⟩
    · rw [heq] at h
      cases h
      exact hheld
    · rw [heq] at h
      cases h

/-- **What a send does to a session.**  It leaves the connection alone and notes activities of the
session's own.  When a connection is held on which the stream has not failed, the first of them are
that the line is about to be sent and that it is written. -/
theorem send_spec (s : Session σ) (text : String) :
    ∃ acts, (s.send host setup text).2.trace = s.trace ++ acts ∧ (∀ a ∈ acts, IsRemote a) ∧
      (s.send host setup text).2.channel = s.channel ∧
      (s.send host setup text).2.endpoint = s.endpoint ∧
      ∀ connection, Held s → s.channel = some connection → s.inbox.streamError = none →
        [.sending (trimmed text), .wrote connection (trimmed text ++ "\r")] <+: acts := by
  rw [send]
  split
  · next endpoint c hendpoint hchannel =>
    split
    · next reason hreason =>
      refine ⟨[], (List.append_nil _).symm, fun a ha => absurd ha List.not_mem_nil, rfl, rfl, ?_⟩
      intro connection _ _ hcalm
      rw [hreason] at hcalm
      cases hcalm
    · obtain ⟨acts, hrun⟩ := sendRun_sendThrough host setup s c endpoint.password (trimmed text)
      have hkeeps := hrun.along (along_keeps setup)
      obtain ⟨more, htrace, hmore⟩ := hrun.along (along_grows setup)
      refine ⟨more, htrace, hmore, hkeeps.channel_eq, hkeeps.endpoint_eq, ?_⟩
      intro connection _ hconnection _
      obtain rfl := Option.some.inj (hchannel.symm.trans hconnection)
      rw [List.append_cancel_left (htrace.symm.trans hrun.trace_eq)]
      exact ⟨acts, rfl⟩
  · next hnone =>
    refine ⟨[], (List.append_nil _).symm, fun a ha => absurd ha List.not_mem_nil, rfl, rfl, ?_⟩
    intro connection hheld hconnection _
    obtain ⟨endpoint, hendpoint⟩ := Option.isSome_iff_exists.mp hheld.2
    exact absurd hconnection (hnone endpoint connection hendpoint)

/-- Beginning fixed-row mode leaves the connection alone. -/
theorem held_enterRedraw (h : Held s) (row : Option Nat) :
    Held (s.enterRedraw host setup row).2 := by
  rw [enterRedraw]
  split_ifs
  · obtain ⟨x, hx⟩ := delivers_pause host setup (s.display .clear) .drawing
    rw [Held]
    dsimp only
    rw [hx.channel_eq, hx.endpoint_eq]
    exact h
  · exact h

/-- **What disconnecting does to a session that holds a connection.**  The connection is closed,
and neither it nor the endpoint is held afterwards. -/
theorem disconnect_spec {connection : Nat} (h : s.channel = some connection) :
    (s.disconnect host setup).2.channel = none ∧ (s.disconnect host setup).2.endpoint = none ∧
      ∃ acts, (s.disconnect host setup).2.trace = s.trace ++ acts ∧
        (∀ a ∈ acts, IsRemote a) ∧ .closed connection ∈ acts := by
  obtain ⟨x, hx⟩ := delivers_flush host setup { s with channel := none } connection
  obtain ⟨y, hy⟩ := delivers_absorb setup.width
    ((({ s with channel := none }.flush host setup connection).2).note [.closed connection])
    (host.close connection ({ s with channel := none }.flush host setup connection).2.world)
  rw [disconnect, h]
  refine ⟨hy.channel_eq.trans hx.channel_eq, rfl,
    x ++ .closed connection :: (y ++ [.shown (.line "Ssh connection has been closed")]), ?_, ?_, ?_⟩
  · dsimp only [say, display, note, reset, close] at hy ⊢
    rw [hy.trace_eq, hx.trace_eq]
    simp
  · refine List.forall_mem_append.mpr ⟨hx.arrives.isRemote, ?_⟩
    refine List.forall_mem_cons.mpr ⟨trivial, ?_⟩
    exact List.forall_mem_append.mpr ⟨hy.arrives.isRemote, List.forall_mem_singleton.mpr trivial⟩
  · exact List.mem_append_right _ List.mem_cons_self

/-- Disconnecting lets the trace go on. -/
theorem grows_disconnect (s : Session σ) :
    Grows IsRemote s.trace (s.disconnect host setup).2.trace := by
  cases hchannel : s.channel with
  | none =>
    rw [disconnect, hchannel]
    exact .refl _
  | some connection =>
    obtain ⟨-, -, acts, htrace, hacts, -⟩ := disconnect_spec host setup hchannel
    exact ⟨acts, htrace, hacts⟩

/-- Every step lets the trace go on. -/
theorem grows_step (s : Session σ) (a : Step σ) :
    Grows IsRemote s.trace (s.step host setup a).trace := by
  cases a with
  | connect endpoint => exact grows_connect host setup s endpoint
  | send text =>
    obtain ⟨acts, htrace, hacts, -⟩ := send_spec host setup s text
    exact ⟨acts, htrace, hacts⟩
  | enterRedraw row => exact grows_enterRedraw host setup s row
  | exitRedraw => exact .refl _
  | disconnect => exact grows_disconnect host setup s
  | deliver d =>
    obtain ⟨acts, hd⟩ := delivers_deliver setup.width s d
    exact hd.grows
  | elapse world => exact .refl _

/-- Every run lets the trace go on. -/
theorem grows_run (s : Session σ) (steps : List (Step σ)) :
    Grows IsRemote s.trace (s.run host setup steps).trace := by
  induction steps generalizing s with
  | nil => exact .refl _
  | cons a steps ih => exact (grows_step host setup s a).trans (ih (s.step host setup a))

end Holding

end Session

end Remote

end ScriptedShell
