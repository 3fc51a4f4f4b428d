/-
# The local engine

Hands scripts to a shell program.  The engine keeps a directory of its own: a script that does
nothing but change the directory is carried out here, since a child program would forget it.
-/
import ScriptedShell.Failure
import ScriptedShell.Local.Machine
import ScriptedShell.Local.Result
import ScriptedShell.Settings.Basic
import ScriptedShell.Text.Lines

namespace ScriptedShell.Local

open Text Files

/-- A local engine. -/
structure Engine where
  program : String
  arguments : List String
  directory : String
  environment : List (String × String)
  deriving Repr, DecidableEq

/-! ## Changing the directory -/

/-- The directory that stands for the user's own. -/
def homeMark : String := "~"

/-- Whether a character sets scripts apart. -/
def isScriptBreak (c : Char) : Bool := c = ';' || c = '&' || c = '|'

/-- The target of a script that does nothing but change the directory. -/
def directoryTarget? (script : String) : Option String :=
  match script.toList with
  | ['c', 'd'] => some homeMark
  | 'c' :: 'd' :: c :: rest =>
    if isBlank c then
      let target := trim rest
      if target.any isScriptBreak then none
      else some (if target.isEmpty then homeMark else String.ofList target)
    else none
  | _ => none

/-- Whether a character is a quote. -/
def isQuote (c : Char) : Bool := c = '"' || c = '\''

/-- The path of a target: quotes around it are left out, and a leading mark for the user's own
directory is replaced, if there is one. -/
def resolveTarget (home : Option String) (base target : String) : String :=
  let path := String.ofList (dropEndWhile isQuote (target.toList.dropWhile isQuote))
  match path.toList, home with
  | ['~'], some home => home
  | '~' :: '/' :: rest, some home => Path.join home (String.ofList rest)
  | _, _ => Path.join base path

namespace Engine

/-- The engine that settings describe, on a machine. -/
def ofSettings (s : ShellSettings) (m : Machine) : Engine :=
  ⟨s.program, s.arguments, s.workingDirectory.getD m.currentPath, s.environment⟩

/-- Set an environment variable. -/
def setVariable (e : Engine) (name value : String) : Engine :=
  { e with environment := e.environment.filter (·.1 != name) ++ [(name, value)] }

/-- Change the directory, which must be there. -/
def changeDirectory (e : Engine) (m : Machine) (script target : String) : ShellResult × Engine :=
  match m.directory? (resolveTarget m.home? e.directory target) with
  | some directory => ({ script, code := some 0 }, { e with directory })
  | none => (.failed script ("cd: no such directory: " ++ target), e)

/-! ## Running scripts -/

/-- The lines of what a program has printed, up to the first one that is no text. -/
def printedLines (bytes : List UInt8) : List String :=
  let lines := readable (splitAtEach (· == 10) bytes)
  lines.map String.ofList
where
  /-- The text of byte lines: a carriage return before the line feed is left out, and nothing after
  the last line feed is no line. -/
  readable : List (List UInt8) → List (List Char)
    | [] => []
    | [last] => if last.isEmpty then [] else (decode? last).toList
    | line :: rest =>
      match decode? line with
      | some text => dropReturn text :: readable rest
      | none => []

/-- Run a script with the shell program. -/
def runScript (e : Engine) (spawn : Spawner) (m : Machine) (script : String) :
    ShellResult × Machine :=
  match spawn ⟨e.program, e.arguments ++ [script], e.directory, e.environment⟩ m with
  | (.ok done, m) =>
    ({ script, output := printedLines done.output, errors := printedLines done.errors,
       code := done.code }, m)
  | (.error reason, m) => (.failed script (Failure.notExecuted script reason).message, m)

/-- Carry out a script. -/
def invoke (e : Engine) (spawn : Spawner) (m : Machine) (text : String) :
    ShellResult × Engine × Machine :=
  let script := trimmed text
  match directoryTarget? script with
  | some target => let (result, e) := e.changeDirectory m script target; (result, e, m)
  | none => let (result, m) := e.runScript spawn m script; (result, e, m)

end Engine

end ScriptedShell.Local
