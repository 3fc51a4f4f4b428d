/-
# Results of local scripts

What comes back when a script is handed to the local shell.
-/

namespace ScriptedShell.Local

/-- The result of a script. -/
structure ShellResult where
  script : String
  /-- The lines of its output. -/
  output : List String := []
  /-- The lines of its error output. -/
  errors : List String := []
  /-- Why the script could not run at all, if it could not. -/
  message : Option String := none
  /-- The exit code, absent when the script did not run or was ended by a signal. -/
  code : Option Nat := none
  deriving Repr, DecidableEq

namespace ShellResult

/-- The result of a script that could not run. -/
def failed (script message : String) : ShellResult := { script, message := some message }

/-- Whether the script ran and did not end with an exit code other than zero. -/
def isSuccess (r : ShellResult) : Bool := r.message.isNone && r.code.all (· == 0)

/-- The lines shown for a result; those of the output are left out when they have been shown as
they came. -/
def shownLines (r : ShellResult) (streamed : Bool) : List String :=
  match r.message with
  | some message => [message]
  | none => (if streamed then [] else r.output) ++ r.errors

end ShellResult

end ScriptedShell.Local
