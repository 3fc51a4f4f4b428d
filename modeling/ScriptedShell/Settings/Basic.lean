/-
# Settings

The settings of a run, in sections, each with its defaults.
-/
import ScriptedShell.Command.Capture
import ScriptedShell.Duration
import ScriptedShell.Text.Digits

namespace ScriptedShell

open Text

/-- How local lines are run. -/
structure ShellSettings where
  /-- The program that runs local lines. -/
  program : String := "/bin/sh"
  /-- Its arguments before the text of the line. -/
  arguments : List String := ["-c"]
  /-- The program that opens a path. -/
  openCommand : String := "xdg-open"
  /-- Environment variables set for local lines. -/
  environment : List (String × String) := []
  /-- The directory to start in, when it is not the one the program runs in. -/
  workingDirectory : Option String := none
  deriving Repr, DecidableEq

/-- How remote sessions are opened and used. -/
structure RemoteSettings where
  defaultUser : String := "root"
  defaultPort : Nat := 22
  /-- A second user whose name marks prompts. -/
  superuser : String := "root"
  connectAttempts : Nat := 3
  connectTimeoutSeconds : Nat := 10
  /-- Text that marks a privileged command. -/
  sudoMarker : String := "sudo"
  /-- Text that marks a request for the password, in either case. -/
  passwordCue : String := "password"
  passwordCueTimeoutMilliseconds : Nat := 500
  shellProgram : String := "ssh"
  copyProgram : String := "scp"
  /-- Further arguments of both programs. -/
  extraArguments : List String := []
  deriving Repr, DecidableEq

namespace RemoteSettings

/-- How long a connection waits for its first prompt. -/
def connectTimeout (s : RemoteSettings) : Duration := .ofSeconds s.connectTimeoutSeconds

/-- How long a privileged command waits for a request for the password. -/
def cueTimeout (s : RemoteSettings) : Duration :=
  .ofMilliseconds s.passwordCueTimeoutMilliseconds

end RemoteSettings

/-- What the screen looks like. -/
structure DisplaySettings where
  /-- Columns; taken from the terminal when absent. -/
  width : Option Nat := none
  rows : Nat := 24
  /-- The row of the prompt in fixed-row mode. -/
  anchorRow : Nat := 1
  deriving Repr, DecidableEq

/-- The largest size that a number of columns can have. -/
def maxColumns : Nat := Nat.pow 2 64 - 1

/-- The columns in effect: those set, else those that the environment names, else 120; zero
columns count as none. -/
def DisplaySettings.effectiveWidth (s : DisplaySettings) (columns : Option String) : Nat :=
  let named := columns.bind fun text => boundedNumber maxColumns (trim text.toList)
  match s.width.or named with
  | some (width + 1) => width + 1
  | _ => 120

/-- All settings. -/
structure Settings where
  shell : ShellSettings := {}
  remote : RemoteSettings := {}
  display : DisplaySettings := {}
  /-- Policies that replace builtin ones, by the word of the command. -/
  capture : List (String × Command.Policy) := []
  deriving Repr, DecidableEq

/-- The settings that hold when no file sets others. -/
def Settings.default : Settings := {}

end ScriptedShell
