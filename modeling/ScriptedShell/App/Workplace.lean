/-
# Workplaces

The surroundings of a program on a machine without a network: local scripts go to the engine, files
are those of the machine, and the programs that reach other hosts cannot be started.
-/
import ScriptedShell.Local.Engine
import ScriptedShell.Run.Session

namespace ScriptedShell.App

open Local Files

/-- Where a program works: a machine, and the engine that runs scripts on it. -/
structure Workplace where
  machine : Machine
  engine : Engine

namespace Workplace

/-- The workplace on a machine that settings describe. -/
def ofSettings (settings : Settings) (machine : Machine) : Workplace :=
  ⟨machine, .ofSettings settings.shell machine⟩

/-- The workplace with other files. -/
def withTree (w : Workplace) (tree : Tree) : Workplace :=
  { w with machine := { w.machine with tree } }

/-- Hand a script to the engine. -/
def invoke (spawn : Spawner) (script : String) (w : Workplace) : Run.Invoked Workplace :=
  let (result, engine, machine) := w.engine.invoke spawn w.machine script
  .ofResult result ⟨machine, engine⟩

/-- A program cannot be started because it is not there. -/
def absent (program : String) : Failure := .notSpawned program FileFault.missing.message

/-- No host can be reached. -/
def host (settings : RemoteSettings) : Remote.Host Workplace where
  openShell _ _ _ w := { failure := some (absent settings.shellProgram), world := w }
  write _ _ w := { world := w }
  flush _ w := { world := w }
  close _ w := { world := w }
  await _ w := .nothing w
  pause _ w := ([], w)

/-- No file can be copied to or from another host. -/
def copier (settings : RemoteSettings) : Remote.Copier Workplace where
  upload _ _ _ w := { failure := some (absent settings.copyProgram), world := w }
  download _ _ _ w := { failure := some (absent settings.copyProgram), world := w }
  isFile path w := w.machine.tree.isFile w.machine.place path
  removeFile path w := (w.machine.tree.remove w.machine.place path).map w.withTree

/-- The surroundings that a workplace makes, with a way to start local programs. -/
def surroundings (spawn : Spawner) (settings : RemoteSettings) : Run.Surroundings Workplace where
  host := host settings
  copier := copier settings
  currentDirectory w := w.engine.directory
  invoke := invoke spawn
  readText path w := w.machine.tree.readText w.machine.place path

end Workplace

end ScriptedShell.App
