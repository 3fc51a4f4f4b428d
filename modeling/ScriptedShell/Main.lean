/-
# The command line

The program on a real machine.  The files below the directory that it is started in, and those that
settings can be in, are read before it begins; what it does to files is carried out after each of
its steps.
-/
import ScriptedShell.App.Program
import ScriptedShell.Files.Changes
import ScriptedShell.Local.Spawn

namespace ScriptedShell.App

open Local Files

/-- The environment variables that the program looks at. -/
def knownVariables : List String := ["HOME", "PATH", Storage.settingsVariable, columnsVariable]

/-- The variables of a list that are set. -/
def readVariables (names : List String) : IO (List (String × String)) := do
  let values ← names.mapM fun name => do
    return (← IO.getEnv name).toList.map fun value => (name, value)
  return values.flatten

/-- Add the file at a path, if there is one, to a machine. -/
def addFile (m : Machine) (path : String) : IO Machine := do
  try return m.plant path (← IO.FS.readBinFile path).toList
  catch _ => return m

/-- Add an entry of a directory, and everything below it, to a machine. -/
partial def addEntry (m : Machine) (entry : IO.FS.DirEntry) : IO Machine := do
  let path := entry.path.toString
  try
    match (← entry.path.symlinkMetadata).type with
    | .dir => (← entry.path.readDir).foldlM addEntry (m.makeDirectory path)
    | .file => addFile m path
    | _ => return m
  catch _ => return m

/-- The machine that the program begins on. -/
def readMachine (arguments : List String) : IO Machine := do
  let directory := (← IO.currentDir).toString
  let place := (Path.segments directory).filter fun segment => !Path.isStill segment
  let m : Machine :=
    { tree := standardTree, place, environment := ← readVariables knownVariables }
  let m ← (← (← IO.currentDir).readDir).foldlM addEntry (m.makeDirectory directory)
  let settingsFiles := (Storage.candidates (Storage.standardBases m)).map (·.2)
  (settingsFiles ++ arguments).foldlM addFile m

/-- Carry out a change. -/
def carryOut : Change → IO Unit
  | .removed place => do
    let path := Tree.pathOf place
    try IO.FS.removeFile path catch _ => IO.FS.removeDirAll path
  | .placed place .directory => IO.FS.createDirAll (Tree.pathOf place)
  | .placed place (.file bytes) =>
    IO.FS.writeBinFile (Tree.pathOf place) (ByteArray.mk bytes.toArray)
  | .placed _ _ => return ()

/-- Read a line of the standard input. -/
def readInput (stdin : IO.FS.Stream) : IO Input := do
  try
    let text ← stdin.getLine
    return if text.isEmpty then .ended else .line text
  catch _ => return .unreadable

/-- Go on with a program until it ends. -/
partial def converse (before : Machine) (step : Step) : IO UInt32 := do
  let stdout ← IO.getStdout
  stdout.putStr step.printed
  stdout.flush
  (before.tree.changes step.stage.machine.tree).forM carryOut
  match step.stage with
  | .ended code _ => return UInt32.ofNat code
  | .asking talk =>
    let input ← readInput (← IO.getStdin)
    converse step.stage.machine (talk.answer input)

end ScriptedShell.App

/-- The program. -/
def main (arguments : List String) : IO UInt32 := do
  let machine ← ScriptedShell.App.readMachine arguments
  ScriptedShell.App.converse machine
    (ScriptedShell.App.start ScriptedShell.Local.spawn machine arguments)
