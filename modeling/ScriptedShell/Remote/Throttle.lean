/-
# Progress reports

Percentages come in any order and number.  A throttle reports them in whole steps, each step once
and only upwards.
-/

namespace ScriptedShell.Remote

/-- The size of a step and the last step reported. -/
structure Throttle where
  step : Nat
  last : Option Nat := none
  deriving Repr, DecidableEq

namespace Throttle

/-- A throttle with the given step, which is at least 1. -/
def ofStep (step : Nat) : Throttle := { step := max step 1 }

/-- The throttle of file transfers. -/
def default : Throttle := ofStep 5

/-- The step that a percentage has reached; more than 100 percent counts as 100. -/
def bucket (t : Throttle) (percent : Nat) : Nat := min percent 100 / t.step * t.step

/-- What to report for a percentage, if anything, and the throttle after it. -/
def update (t : Throttle) (percent : Nat) : Option Nat × Throttle :=
  let reached := t.bucket percent
  match t.last with
  | some last =>
    if reached ≤ last then (none, t) else (some reached, { t with last := some reached })
  | none => (some reached, { t with last := some reached })

/-- What is reported for each of a list of percentages. -/
def updates (t : Throttle) : List Nat → List (Option Nat)
  | [] => []
  | p :: ps => (t.update p).1 :: (t.update p).2.updates ps

end Throttle

end ScriptedShell.Remote
