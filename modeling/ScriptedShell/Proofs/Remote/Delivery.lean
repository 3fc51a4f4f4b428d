/-
# What deliveries do to a session

While deliveries come in, a session holds on to its connection, its endpoint and its handlers; its
trace grows, and its inbox changes as the inbox of `Arrives` does.  The calls of the host and the
two waits are made of deliveries: each has one lemma that says what it does besides.
-/
import Mathlib
import ScriptedShell.Proofs.Remote.Arrival
import ScriptedShell.Remote.Session

namespace ScriptedShell.Remote.Session

open Inbox

variable {σ : Type} {width : Nat} {s t u : Session σ} {acts more : List Activity}

/-- Deliveries take a session to another one while activities are noted. -/
structure Delivers (width : Nat) (s : Session σ) (acts : List Activity) (t : Session σ) :
    Prop where
  trace_eq : t.trace = s.trace ++ acts
  arrives : Arrives width s.inbox acts t.inbox
  channel_eq : t.channel = s.channel
  endpoint_eq : t.endpoint = s.endpoint
  handlers_eq : t.handlers = s.handlers

namespace Delivers

/-- Nothing is delivered, whatever becomes of the world. -/
theorem none (s : Session σ) (world : σ) : Delivers width s [] { s with world } :=
  ⟨(List.append_nil _).symm, .done _, rfl, rfl, rfl⟩

/-- A silent call is noted. -/
theorem note (s : Session σ) {a : Activity} (ha : IsSilentCall a) :
    Delivers width s [a] (s.note [a]) :=
  ⟨rfl, .call a ha (.done _), rfl, rfl, rfl⟩

/-- Deliveries one after the other are deliveries. -/
theorem trans (h : Delivers width s acts t) (h' : Delivers width t more u) :
    Delivers width s (acts ++ more) u where
  trace_eq := by rw [h'.trace_eq, h.trace_eq, List.append_assoc]
  arrives := h.arrives.trans h'.arrives
  channel_eq := h'.channel_eq.trans h.channel_eq
  endpoint_eq := h'.endpoint_eq.trans h.endpoint_eq
  handlers_eq := h'.handlers_eq.trans h.handlers_eq

end Delivers

/-! ## Deliveries -/

variable (width)

/-- Taking in a signal, whatever generation it is of. -/
theorem delivers_accept (s : Session σ) (generation : Nat) (signal : Signal) :
    ∃ acts, Delivers width s acts (s.accept width generation signal) := by
  cases signal with
  | data bytes => exact ⟨_, rfl, arrives_receive generation bytes s.inbox, rfl, rfl, rfl⟩
  | broken cause => exact ⟨_, rfl, arrives_fail generation cause s.inbox, rfl, rfl, rfl⟩

/-- A delivery through a handler of another generation changes nothing. -/
theorem deliver_eq_self {s : Session σ} {d : Delivery}
    (hstale : s.handlers[d.connection]? ≠ some s.inbox.generation) : s.deliver width d = s := by
  rw [deliver]
  split
  · next g hg =>
    have hother : ¬ s.inbox.generation = g := by
      rintro rfl
      exact hstale hg
    cases d.signal <;> simp [accept, receive, fail, hother, note]
  · rfl

/-- Taking in a delivery. -/
theorem delivers_deliver (s : Session σ) (d : Delivery) :
    ∃ acts, Delivers width s acts (s.deliver width d) := by
  rw [deliver]
  split
  · exact delivers_accept width s _ _
  · exact ⟨[], .none s s.world⟩

/-- Taking in deliveries in order. -/
theorem delivers_deliverAll (s : Session σ) (ds : List Delivery) :
    ∃ acts, Delivers width s acts (s.deliverAll width ds) := by
  induction ds generalizing s with
  | nil => exact ⟨[], .none s s.world⟩
  | cons d ds ih =>
    obtain ⟨acts, h⟩ := delivers_deliver width s d
    obtain ⟨more, h'⟩ := ih (s.deliver width d)
    exact ⟨acts ++ more, h.trans h'⟩

/-- The answer to a call. -/
theorem delivers_absorb (s : Session σ) (r : Reply σ) :
    ∃ acts, Delivers width s acts (s.absorb width r) := by
  obtain ⟨acts, h⟩ := delivers_deliverAll width { s with world := r.world } r.deliveries
  exact ⟨acts, (Delivers.none s r.world).trans h⟩

variable (host : Host σ) (setup : Setup)

/-- A moment of the session's own. -/
theorem delivers_pause (s : Session σ) (m : Moment) :
    ∃ acts, Delivers setup.width s acts (s.pause host setup m) := by
  obtain ⟨acts, h⟩ := delivers_deliverAll setup.width
    { s with world := (host.pause m s.world).2 } (host.pause m s.world).1
  exact ⟨acts, (Delivers.none s _).trans h⟩

/-! ## Calls -/

/-- Writing to a connection notes it, and then deliveries come in. -/
theorem delivers_writeTo (s : Session σ) (connection : Nat) (text : String) :
    ∃ acts, Delivers setup.width (s.note [.wrote connection text]) acts
      (s.writeTo host setup connection text).2 :=
  delivers_absorb setup.width _ _

/-- Flushing a connection is a silent call, and then deliveries come in. -/
theorem delivers_flush (s : Session σ) (connection : Nat) :
    ∃ acts, Delivers setup.width s acts (s.flush host setup connection).2 := by
  obtain ⟨acts, h⟩ := delivers_absorb setup.width (s.note [.flushed connection])
    (host.flush connection s.world)
  exact ⟨_, (Delivers.note s ⟨connection, .inr (.inl rfl)⟩).trans h⟩

/-- Closing a connection is a silent call, and then deliveries come in. -/
theorem delivers_close (s : Session σ) (connection : Nat) :
    ∃ acts, Delivers setup.width s acts (s.close host setup connection) := by
  obtain ⟨acts, h⟩ := delivers_absorb setup.width (s.note [.closed connection])
    (host.close connection s.world)
  exact ⟨_, (Delivers.note s ⟨connection, .inr (.inr rfl)⟩).trans h⟩

/-- Writing a line of input and flushing the connection: the line is written, and then deliveries
come in. -/
theorem delivers_enter (s : Session σ) (connection : Nat) (text : String) :
    ∃ acts, Delivers setup.width (s.note [.wrote connection (text ++ "\r")]) acts
      (s.enter host setup connection text).2 := by
  obtain ⟨acts, h⟩ := delivers_writeTo host setup s connection (text ++ "\r")
  rw [enter]
  split
  · next heq => exact ⟨acts, by rwa [heq] at h⟩
  · next t heq =>
    rw [heq] at h
    obtain ⟨more, h'⟩ := delivers_flush host setup t connection
    exact ⟨acts ++ more, h.trans h'⟩

/-! ## Waits -/

/-- A wait for the prompt takes in deliveries until it ends.  It is over at once when a prompt has
been seen, which is then forgotten, or when the stream has failed. -/
theorem waitForPrompt_spec (s : Session σ) (arrivals : Arrivals σ) :
    ∃ acts t, Delivers width s acts t ∧
      ((t.inbox.promptSeen = true ∧ s.waitForPrompt width arrivals =
          (.ready, { t with inbox := { t.inbox with promptSeen := false } })) ∨
        (∃ reason, t.inbox.streamError = some reason ∧
          s.waitForPrompt width arrivals = (.closed reason, t)) ∨
        s.waitForPrompt width arrivals = (.expired, t)) := by
  induction arrivals generalizing s with
  | nothing world =>
    rw [waitForPrompt, promptFound]
    split_ifs with hseen
    · exact ⟨[], s, .none s s.world, .inl ⟨hseen, rfl⟩⟩
    · cases herror : s.inbox.streamError with
      | none => exact ⟨[], { s with world }, .none s world, .inr (.inr rfl)⟩
      | some reason => exact ⟨[], s, .none s s.world, .inr (.inl ⟨reason, herror, rfl⟩)⟩
  | batch deliveries world rest ih =>
    rw [waitForPrompt, promptFound]
    split_ifs with hseen
    · exact ⟨[], s, .none s s.world, .inl ⟨hseen, rfl⟩⟩
    · cases herror : s.inbox.streamError with
      | none =>
        obtain ⟨acts, h⟩ := delivers_deliverAll width { s with world } deliveries
        obtain ⟨more, t, h', hend⟩ := ih ({ s with world }.deliverAll width deliveries)
        exact ⟨acts ++ more, t, ((Delivers.none s world).trans h).trans h', hend⟩
      | some reason => exact ⟨[], s, .none s s.world, .inr (.inl ⟨reason, herror, rfl⟩)⟩

/-- A wait for the request for the password takes in deliveries until it ends.  It finds the
request when one has been seen; otherwise it stops awaiting one. -/
theorem waitForCue_spec (s : Session σ) (arrivals : Arrivals σ) :
    ∃ acts t, Delivers width s acts t ∧
      ((t.inbox.cueSeen = true ∧ s.waitForCue width arrivals = (true, t)) ∨
        (t.inbox.cueSeen = false ∧ s.waitForCue width arrivals = (false, t.giveUpCue))) := by
  induction arrivals generalizing s with
  | nothing world =>
    rw [waitForCue, cueFound]
    split_ifs with hcue hstop
    · exact ⟨[], s, .none s s.world, .inl ⟨hcue, rfl⟩⟩
    · exact ⟨[], s, .none s s.world, .inr ⟨Bool.eq_false_iff.mpr hcue, rfl⟩⟩
    · exact ⟨[], { s with world }, .none s world, .inr ⟨Bool.eq_false_iff.mpr hcue, rfl⟩⟩
  | batch deliveries world rest ih =>
    rw [waitForCue, cueFound]
    split_ifs with hcue hstop
    · exact ⟨[], s, .none s s.world, .inl ⟨hcue, rfl⟩⟩
    · exact ⟨[], s, .none s s.world, .inr ⟨Bool.eq_false_iff.mpr hcue, rfl⟩⟩
    · obtain ⟨acts, h⟩ := delivers_deliverAll width { s with world } deliveries
      obtain ⟨more, t, h', hend⟩ := ih ({ s with world }.deliverAll width deliveries)
      exact ⟨acts ++ more, t, ((Delivers.none s world).trans h).trans h', hend⟩

end ScriptedShell.Remote.Session
