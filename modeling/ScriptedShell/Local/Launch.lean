/-
# Launching

Which program a path stands for: one of the machine's own, or the interpreter that the first line of
a file names.  A name without a slash is looked for in the directories of a search path.
-/
import ScriptedShell.Local.Task

namespace ScriptedShell.Local

open Files Text

/-- Why a file cannot be launched. -/
inductive LaunchFault where
  | file (fault : FileFault)
  /-- The file is no program, and no first line says what it is. -/
  | noFormat
  deriving Repr, DecidableEq

/-- The wording of a fault. -/
def LaunchFault.text : LaunchFault → String
  | file fault => fault.text
  | noFormat => "Exec format error"

/-- The wording of a fault with the number that the system has for it. -/
def LaunchFault.message : LaunchFault → String
  | file fault => fault.message
  | noFormat => "Exec format error (os error 8)"

/-- A program of the machine with what it is called by and its arguments. -/
structure Launch where
  program : String
  name : String
  arguments : List String
  deriving Repr, DecidableEq

/-- The interpreter that the first line of a file names, with the argument after it. -/
def interpreterOf? (bytes : List UInt8) : Option (String × List String) :=
  match octets (bytes.takeWhile (· != 10)) with
  | '#' :: '!' :: rest =>
    let isGap := fun (c : Char) => c = ' ' || c = '\t'
    let rest := (rest.dropWhile isGap).reverse.dropWhile isGap |>.reverse
    let (path, after) := rest.span fun c => !isGap c
    let argument := after.dropWhile isGap
    if path.isEmpty then none
    else some (String.ofList path, if argument.isEmpty then [] else [String.ofList argument])
  | _ => none

/-- The most interpreters that are named one after the other. -/
def maxInterpreters : Nat := 5

/-- What is launched for a path and arguments. -/
def launchAt (t : Tree) (current : Place) : Nat → (path name : String) → List String →
    Except LaunchFault Launch
  | 0, _, _, _ => .error (.file .tooManyLinks)
  | depth + 1, path, name, arguments =>
    match t.node current (ofOctets path) with
    | .error fault => .error (.file fault)
    | .ok (_, .program program) => .ok ⟨program, name, arguments⟩
    | .ok (place, .file bytes) =>
      if Nat.land (t.modeOf place) 0o111 = 0 then .error (.file .denied)
      else match interpreterOf? bytes with
        | some (interpreter, argument) =>
          launchAt t current depth interpreter interpreter (argument ++ path :: arguments)
        | none => .error .noFormat
    | .ok _ => .error (.file .denied)

/-- What is launched for a path and arguments. -/
def launch (t : Tree) (current : Place) (path name : String) (arguments : List String) :
    Except LaunchFault Launch :=
  launchAt t current maxInterpreters path name arguments

/-- The paths that a name can stand for in the directories of a search path. -/
def candidates (search name : String) : List String :=
  (piecesOf (· = ':') search.toList).map fun directory =>
    if directory.isEmpty then name else String.ofList directory ++ "/" ++ name

/-- Whether a path leads to a file that can be launched: if not, whether there is something else. -/
def canLaunch (t : Tree) (current : Place) (path : String) : Except FileFault Unit :=
  match t.node current (ofOctets path) with
  | .error fault => .error fault
  | .ok (_, .directory) => .error .denied
  | .ok (place, _) => if Nat.land (t.modeOf place) 0o111 = 0 then .error .denied else .ok ()

/-- The path that a name stands for in a search path.  When nothing can be launched, but a file is
there, that file is the reason. -/
def findProgram (t : Tree) (current : Place) (search name : String) : Except FileFault String :=
  (candidates search name).foldl (fun (found : Except FileFault String) path =>
    match found with
    | .ok path => .ok path
    | .error worst => match canLaunch t current path with
      | .ok () => .ok path
      | .error .missing | .error .notDirectory => .error worst
      | .error fault => .error fault) (.error .missing)

/-- The search path of an environment that has none. -/
def defaultSearch : String := "/usr/local/sbin:/usr/local/bin:/usr/sbin:/usr/bin:/sbin:/bin"

/-- What is launched for a name and arguments: a name with a slash is a path. -/
def launchNamed (t : Tree) (current : Place) (search name : String) (arguments : List String) :
    Except LaunchFault Launch :=
  if name.toList.elem '/' then launch t current name name arguments
  else match findProgram t current search name with
    | .ok path => launch t current path name arguments
    | .error fault => .error (.file fault)

end ScriptedShell.Local
