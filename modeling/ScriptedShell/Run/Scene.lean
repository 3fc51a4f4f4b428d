/-
# Scenes

Surroundings made of plain data: a scripted host, a local machine with its files, a local shell
that is an engine or a list of prepared results, and a copier that follows a script.
-/
import ScriptedShell.Local.Engine
import ScriptedShell.Remote.ScriptedHost
import ScriptedShell.Run.Session

namespace ScriptedShell.Run

open Local Files

/-- What answers local scripts. -/
inductive LocalShell where
  /-- Results prepared for scripts, in a directory that never changes. -/
  | prepared (directory : String) (results : List ShellResult)
  | engine (engine : Engine)
  deriving Repr, DecidableEq

/-- What a scripted copier does with every file: the percentages that it reports, why it fails, if
it does, and the bytes that downloads bring. -/
structure CopyScript where
  percentages : List Nat := []
  error : Option String := none
  content : List UInt8 := []
  deriving Repr, DecidableEq

/-- A world for runs. -/
structure Scene where
  host : Remote.HostScript := {}
  machine : Machine := {}
  shell : LocalShell
  uploads : CopyScript := {}
  downloads : CopyScript := {}

namespace Scene

/-- The scene with other files. -/
def withTree (s : Scene) (tree : Tree) : Scene := { s with machine := { s.machine with tree } }

/-- The directory that local paths are taken from. -/
def currentDirectory (s : Scene) : String :=
  match s.shell with
  | .prepared directory _ => directory
  | .engine e => e.directory

/-- Hand a script to the local shell; a script without a prepared result prints nothing. -/
def invoke (spawn : Spawner) (script : String) (s : Scene) : Invoked Scene :=
  match s.shell with
  | .prepared _ results =>
    .ofResult ((results.find? fun r => r.script = script).getD { script, code := some 0 }) s
  | .engine e =>
    let (result, e, machine) := e.invoke spawn s.machine script
    .ofResult result { s with shell := .engine e, machine }

/-! ## Copying -/

/-- Report progress for a local file, and fail if the script says so. -/
def upload (path : String) (s : Scene) : Remote.Copied Scene :=
  { percentages := s.uploads.percentages
    failure := s.uploads.error.map fun reason => .transferFailed path reason
    world := s }

/-- Write what the script brings to a local file, or fail for the remote path. -/
def download (remotePath path : String) (s : Scene) : Remote.Copied Scene :=
  match s.downloads.error with
  | some reason => { failure := some (.transferFailed remotePath reason), world := s }
  | none =>
    match s.machine.tree.write s.machine.place path s.downloads.content with
    | .ok tree => { world := s.withTree tree }
    | .error fault => { failure := some (.fileAccess fault.message), world := s }

/-- The scripted copier. -/
def copier : Remote.Copier Scene where
  upload _ path _ s := s.upload path
  download _ remotePath path s := s.download remotePath path
  isFile path s := s.machine.tree.isFile s.machine.place path
  removeFile path s := (s.machine.tree.remove s.machine.place path).map s.withTree

/-- The surroundings that a scene makes, with a way to start local programs. -/
def surroundings (spawn : Spawner) : Surroundings Scene where
  host := Remote.scriptedHost (fun s => s.host) fun s host => { s with host }
  copier := copier
  currentDirectory := currentDirectory
  invoke := invoke spawn
  readText path s := s.machine.tree.readText s.machine.place path

end Scene

end ScriptedShell.Run
