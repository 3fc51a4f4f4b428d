/-
# File runs

The state of one script file while it runs: its name, the variables of the line that ran it, and
the keys that must be declared before each of its lines.
-/
import ScriptedShell.Variable.Store

namespace ScriptedShell.Run

open Variable

/-- One script file being run. -/
structure FileRun where
  name : String
  store : Store := {}
  /-- Keys in order of registration, none twice. -/
  required : List String := []
  deriving Repr, DecidableEq

namespace FileRun

/-- Register a key; whether it was new, and the file run after it. -/
def require (f : FileRun) (key : String) : Bool × FileRun :=
  if f.required.elem key then (false, f) else (true, { f with required := f.required ++ [key] })

/-- Drop a key; whether it was registered, and the file run after it. -/
def unrequire (f : FileRun) (key : String) : Bool × FileRun :=
  (f.required.elem key, { f with required := f.required.filter (· != key) })

/-- The first required key that no layer has. -/
def missing? (f : FileRun) (layers : List Store) : Option String :=
  f.required.find? fun key => (lookup key layers).isNone

end FileRun

end ScriptedShell.Run
