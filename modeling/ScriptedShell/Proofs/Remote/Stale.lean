/-
# Deliveries of connections that are not held

A host can go on talking through a connection that the session has let go of, or never came to
hold.  Between calls the session listens to exactly the connection that it holds
(`Settled.listens_iff`), so that whatever comes in through another one changes nothing, and nothing
later depends on it.
-/
import Mathlib
import ScriptedShell.Proofs.Remote.Lifecycle

namespace ScriptedShell.Remote.Session

open Inbox

variable {σ : Type} (host : Host σ) (setup : Setup) {s : Session σ}

/-! ## Listening -/

/-- Whether the session listens to a connection: it was asked for in the present generation. -/
def Listens (s : Session σ) (connection : Nat) : Prop :=
  s.handlers[connection]? = some s.inbox.generation

/-- A session that holds no connection listens to none. -/
theorem Shut.not_listens (h : Shut s) (connection : Nat) : ¬ s.Listens connection := by
  intro hlistens
  have hlt : s.inbox.generation < s.inbox.generation := h.stale _ (List.mem_of_getElem? hlistens)
  exact absurd hlt (lt_irrefl _)

/-- Between calls the session listens to exactly the connection that it holds. -/
theorem Settled.listens_iff (h : Settled s) (connection : Nat) :
    s.Listens connection ↔ s.channel = some connection := by
  rcases h with hshut | ⟨c, hopen⟩
  · rw [hshut.channel_eq]
    exact iff_of_false (hshut.not_listens connection) nofun
  · rw [hopen.channel_eq, Option.some.injEq, eq_comm]
    exact hopen.current connection

/-- Between calls a delivery of a connection that is not held changes nothing. -/
theorem Settled.deliver_eq (h : Settled s) (width : Nat) {d : Delivery}
    (hstale : s.channel ≠ some d.connection) : s.deliver width d = s := by
  have hdeaf : ¬ s.Listens d.connection := fun hlistens =>
    hstale ((h.listens_iff d.connection).mp hlistens)
  exact deliver_eq_self width hdeaf

/-! ## Runs -/

/-- A run goes on from where its first steps lead. -/
theorem run_append (s : Session σ) (first later : List (Step σ)) :
    s.run host setup (first ++ later) = (s.run host setup first).run host setup later :=
  List.foldl_append

/-- A run is its first step and then a run. -/
theorem run_cons (s : Session σ) (a : Step σ) (later : List (Step σ)) :
    s.run host setup (a :: later) = (s.step host setup a).run host setup later := rfl

/-- **Stale deliveries are inert.**  After every run of a new session, whatever its host does, the
session listens to exactly the connection that it holds.  Data and failures that come in through
any other connection, be it an earlier one, one whose attempt failed, or any at all when none is
held, leave the session as it is, its trace included, and every later run is what it would have
been without them. -/
theorem run_skip_stale (world : σ) (steps : List (Step σ)) :
    (∀ connection, (run host setup { world } steps).Listens connection ↔
      (run host setup { world } steps).channel = some connection) ∧
    ∀ d : Delivery, (run host setup { world } steps).channel ≠ some d.connection →
      (run host setup { world } steps).deliver setup.width d = run host setup { world } steps ∧
      ∀ later : List (Step σ),
        run host setup { world } (steps ++ .deliver d :: later) =
          run host setup { world } (steps ++ later) := by
  have hsettled : Settled (run host setup { world } steps) :=
    settled_run host setup (.inl (shut_new world)) steps
  refine ⟨hsettled.listens_iff, ?_⟩
  intro d hstale
  have hsame : (run host setup { world } steps).deliver setup.width d =
      run host setup { world } steps := hsettled.deliver_eq setup.width hstale
  refine ⟨hsame, ?_⟩
  intro later
  have hstep : (run host setup { world } steps).step host setup (.deliver d) =
      run host setup { world } steps := hsame
  rw [run_append, run_append, run_cons, hstep]

/-- A session that was connected, disconnected and connected again hears nothing through its first
connection, be it a prompt or a failure, and a line sent afterwards returns what it returns
without them. -/
theorem run_skip_stale_reconnected :
    let steps : List (Step HostScript) :=
      [.connect scriptedEndpoint, .disconnect, .connect scriptedEndpoint]
    let s := run scripted scriptedSetup { world := {} } steps
    s.channel = some 1 ∧ s.handlers = [1, 3] ∧
      (∀ signal : Signal, s.deliver scriptedSetup.width ⟨0, signal⟩ = s) ∧
      ∀ signal : Signal, run scripted scriptedSetup { world := {} }
          (steps ++ [.deliver ⟨0, signal⟩, .send "id"]) =
        run scripted scriptedSetup { world := {} } (steps ++ [.send "id"]) := by
  intro steps s
  have hchannel : s.channel = some 1 := by decide +kernel
  have hhandlers : s.handlers = [1, 3] := by decide +kernel
  have hother : ∀ signal : Signal, s.channel ≠ some (Delivery.mk 0 signal).connection := by
    intro signal
    rw [hchannel]
    exact nofun
  have hstale := (run_skip_stale scripted scriptedSetup {} steps).2
  refine ⟨hchannel, hhandlers, ?_, ?_⟩
  · intro signal
    exact (hstale ⟨0, signal⟩ (hother signal)).1
  · intro signal
    exact (hstale ⟨0, signal⟩ (hother signal)).2 [.send "id"]

end ScriptedShell.Remote.Session
