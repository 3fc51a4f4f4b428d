/-
# Outcomes of lines

What a dispatched line means for the lines after it.
-/

namespace ScriptedShell.Run

/-- Whether the run goes on, and what a condition found. -/
structure Outcome where
  canContinue : Bool
  isTrue : Bool
  endsIf : Bool
  deriving Repr, DecidableEq

namespace Outcome

/-- The run goes on. -/
def next : Outcome := ⟨true, false, false⟩

/-- The run stops. -/
def halt : Outcome := ⟨false, false, false⟩

/-- A condition holds. -/
def ifTrue : Outcome := ⟨true, true, false⟩

/-- A condition does not hold. -/
def endIf : Outcome := ⟨true, false, true⟩

/-- The outcome of a run without lines. -/
def default : Outcome := next

end Outcome

end ScriptedShell.Run
