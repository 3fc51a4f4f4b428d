/-
# Starting programs

All programs of the machine by their names, and how one of them is started: what it prints is kept,
and the machine is changed by what it does to files.  This is one spawner, with which the whole
program runs; all else takes any.
-/
import ScriptedShell.Local.Machine
import ScriptedShell.Local.Program.Calculate
import ScriptedShell.Local.Program.Columns
import ScriptedShell.Local.Program.Copying
import ScriptedShell.Local.Program.Count
import ScriptedShell.Local.Program.Edit
import ScriptedShell.Local.Program.Facts
import ScriptedShell.Local.Program.Find
import ScriptedShell.Local.Program.Listing
import ScriptedShell.Local.Program.Order
import ScriptedShell.Local.Program.Select
import ScriptedShell.Local.Program.Starting
import ScriptedShell.Local.Program.Translate
import ScriptedShell.Local.Records.Start
import ScriptedShell.Local.Script.ExtendedStart

namespace ScriptedShell.Local

namespace Program

/-! ## Programs by their names -/

/-- The programs by their names. -/
def table : List (String × (Runner → Program)) :=
  [("dash", Script.shell), ("bash", Script.Extended.shell), ("tr", tr)] ++ showing ++ printing ++
    columns ++ ordering ++ counting ++ selecting ++ removing ++ copying ++ listing ++ starting ++
    calculating ++ facts ++ finding ++ editing ++ Records.handling

/-- Run a program by its name; the number bounds how many programs run inside each other. -/
def runner : Nat → Runner
  | 0 => fun _ _ system => (.code 126, system)
  | depth + 1 => fun name task system =>
    match table.lookup name with
    | some program => (program (runner depth)).run task system
    | none => (.code 127, system)

end Program

/-! ## Starting -/

open Files Text

/-- Why an argument with a zero character cannot be given. -/
def zeroReason : String := "nul byte found in provided data"

/-- How many programs can run inside each other. -/
def maxPrograms : Nat := 200

/-- The number of the first process. -/
def firstProcess : Nat := 4711

/-- The environment of a started program: variables given for it come before those of the
machine. -/
def environmentOf (i : Invocation) (m : Machine) : List (String × String) :=
  let given := i.environment ++ m.environment.filter fun (name, _) =>
    (i.environment.lookup name).isNone
  given.map fun (name, value) => (toOctets name, toOctets value)

/-- What a started program has done. -/
def finished (system : System) (output errors : Nat) (ended : Ended) : Finished :=
  { output := bytesOf (system.pipeText output), errors := bytesOf (system.pipeText errors),
    code := match ended with
      | .code n => some (n % 256)
      | .signal _ => none }

/-- Run what has been launched in a directory. -/
def start (i : Invocation) (m : Machine) (directory : Place) (launch : Launch) :
    Finished × Machine :=
  let system : System := { tree := m.tree, nextProcess := firstProcess }
  let (input, system) := system.hold { target := .device .null }
  let (output, outputEnd, system) := system.newPipe
  let (errors, errorsEnd, system) := system.newPipe
  let (process, system) := system.newProcess
  let task : Task :=
    { name := launch.name, arguments := launch.arguments, environment := environmentOf i m
      directory, streams := [(0, input), (1, outputEnd), (2, errorsEnd)], process }
  let (ended, system) := Program.runner maxPrograms launch.program task system
  (finished system output errors ended, { m with tree := system.tree })

/-- What is launched for an invocation. -/
def launchFor (i : Invocation) (m : Machine) (directory : Place) : Except LaunchFault Launch :=
  if i.program.isEmpty then .error (.file .missing)
  else
    let search := ((i.environment.lookup "PATH").or (m.environment.lookup "PATH")).getD
      defaultSearch
    launchNamed m.tree directory (toOctets search) (toOctets i.program)
      (i.arguments.map toOctets)

/-- Start a program in a directory. -/
def spawn : Spawner := fun i m =>
  let texts := i.program :: i.directory :: i.arguments ++
    i.environment.flatMap fun (name, value) => [name, value]
  if texts.any fun t => t.toList.elem '\x00' then (.error zeroReason, m)
  else match m.tree.node m.place i.directory with
    | .error fault => (.error fault.message, m)
    | .ok (directory, .directory) =>
      match launchFor i m directory with
      | .error fault => (.error fault.message, m)
      | .ok launch =>
        let (done, m) := start i m directory launch
        (.ok done, m)
    | .ok _ => (.error FileFault.notDirectory.message, m)

end ScriptedShell.Local
