/-
# The schema of settings

How settings are read from a document and written to one.  Every section is a table whose absent
keys have their defaults and whose unknown keys are ignored; a section can also be given as a list
of its values in order.  A moment counts as a table with one entry.  A key of a section may stand only once.
-/
import ScriptedShell.Failure
import ScriptedShell.Settings.Basic
import ScriptedShell.Settings.Document

namespace ScriptedShell

open Command

/-! ## Reading values -/

namespace Document

/-- A string. -/
def string? : Document → Option String
  | text s => some s
  | _ => none

/-- An integer from 0 to a bound. -/
def bounded? (bound : Nat) : Document → Option Nat
  | integer (.ofNat n) => if n ≤ bound then some n else none
  | _ => none

/-- A list of strings. -/
def strings? : Document → Option (List String)
  | list items => items.mapM string?
  | _ => none

/-- A value that may be absent. -/
def optional? (read : Document → Option α) : Document → Option (Option α)
  | null => some none
  | d => (read d).map some

/-- The key of the entry that a moment has when it is read as a table. -/
def momentKey : String := "$__toml_private_datetime"

/-- The entries of a document that can be read as a table. -/
def entries? : Document → Option (List (String × Document))
  | table entries => some entries
  | moment written => some [(momentKey, text written)]
  | _ => none

/-- The entries of a table with all their values read; of a repeated key the last value counts. -/
def map? (read : Document → Option α) (d : Document) : Option (List (String × α)) := do
  let pairs ← (← d.entries?).mapM fun (k, v) => (read v).map fun a => (k, a)
  return pairs.foldl (fun done (k, a) => done.filter (·.1 != k) ++ [(k, a)]) []

end Document

/-! ## Reading sections -/

/-- The values of the fields of a section: each given at most once. -/
def sectionFields? (format : FileFormat) (fields : List String) :
    Document → Option (List (String × Document))
  | .list items =>
    if format = .json && fields.length < items.length then none else some (fields.zip items)
  | d => do
    let known := (← d.entries?).filter fun (k, _) => fields.elem k
    if known.all fun (k, _) => (Document.valuesAt known k).length = 1 then some known else none

/-- The value of a field, or its default. -/
def field? (read : Document → Option α) (given : List (String × Document)) (key : String)
    (default : α) : Option α :=
  match given.lookup key with
  | some d => read d
  | none => some default

/-- The largest unsigned number of 16 bits. -/
def max16 : Nat := Nat.pow 2 16 - 1

/-- The largest unsigned number of 32 bits. -/
def max32 : Nat := Nat.pow 2 32 - 1

/-- The largest unsigned number of 64 bits. -/
def max64 : Nat := Nat.pow 2 64 - 1

/-- Read the section of the local shell. -/
def ShellSettings.ofDocument? (format : FileFormat) (d : Document) : Option ShellSettings := do
  let fields := ["shell", "shell_args", "open_command", "environment", "working_directory"]
  let given ← sectionFields? format fields d
  let base : ShellSettings := {}
  return {
    program := ← field? Document.string? given "shell" base.program
    arguments := ← field? Document.strings? given "shell_args" base.arguments
    openCommand := ← field? Document.string? given "open_command" base.openCommand
    environment := ← field? (Document.map? Document.string?) given "environment" base.environment
    workingDirectory := ←
      field? (Document.optional? Document.string?) given "working_directory" base.workingDirectory }

/-- Read the section of remote sessions. -/
def RemoteSettings.ofDocument? (format : FileFormat) (d : Document) : Option RemoteSettings := do
  let fields := ["default_user", "default_port", "superuser", "connect_attempts",
    "connect_timeout_secs", "sudo_marker", "password_cue", "password_cue_timeout_ms",
    "ssh_program", "scp_program", "extra_ssh_args"]
  let given ← sectionFields? format fields d
  let base : RemoteSettings := {}
  let string := field? Document.string? given
  let number := fun bound => field? (Document.bounded? bound) given
  return {
    defaultUser := ← string "default_user" base.defaultUser
    defaultPort := ← number max16 "default_port" base.defaultPort
    superuser := ← string "superuser" base.superuser
    connectAttempts := ← number max32 "connect_attempts" base.connectAttempts
    connectTimeoutSeconds := ← number max64 "connect_timeout_secs" base.connectTimeoutSeconds
    sudoMarker := ← string "sudo_marker" base.sudoMarker
    passwordCue := ← string "password_cue" base.passwordCue
    passwordCueTimeoutMilliseconds := ←
      number max64 "password_cue_timeout_ms" base.passwordCueTimeoutMilliseconds
    shellProgram := ← string "ssh_program" base.shellProgram
    copyProgram := ← string "scp_program" base.copyProgram
    extraArguments := ← field? Document.strings? given "extra_ssh_args" base.extraArguments }

/-- Read the section of the screen. -/
def DisplaySettings.ofDocument? (format : FileFormat) (d : Document) :
    Option DisplaySettings := do
  let given ← sectionFields? format ["width", "rows", "redraw_anchor_row"] d
  let base : DisplaySettings := {}
  let number := field? (Document.bounded? max16) given
  return {
    width := ← field? (Document.optional? (Document.bounded? max64)) given "width" base.width
    rows := ← number "rows" base.rows
    anchorRow := ← number "redraw_anchor_row" base.anchorRow }

/-- Read the name of a capture rule, which can also be the only key of a table without a value. -/
def Command.CaptureRule.ofDocument? (format : FileFormat) : Document → Option CaptureRule
  | .text name => CaptureRule.ofName? name
  | .table [(name, value)] =>
    match format, value with
    | .json, .null | .toml, .table [] | .toml, .list [] => CaptureRule.ofName? name
    | _, _ => none
  | _ => none

/-- Read a policy; its rule has no default. -/
def Command.Policy.ofDocument? (format : FileFormat) (d : Document) : Option Policy := do
  let given ← sectionFields? format ["rule", "skip"] d
  return {
    rule := ← (given.lookup "rule").bind (CaptureRule.ofDocument? format)
    skip := ← field? (Document.bounded? max64) given "skip" 0 }

/-- Read all settings. -/
def Settings.ofDocument? (format : FileFormat) (d : Document) : Option Settings := do
  let given ← sectionFields? format ["local", "remote", "display", "capture"] d
  return {
    shell := ← field? (ShellSettings.ofDocument? format) given "local" {}
    remote := ← field? (RemoteSettings.ofDocument? format) given "remote" {}
    display := ← field? (DisplaySettings.ofDocument? format) given "display" {}
    capture := ← field? (Document.map? (Policy.ofDocument? format)) given "capture" [] }

/-! ## Writing -/

namespace Document

/-- An unsigned integer. -/
def number (n : Nat) : Document := integer n

/-- A list of strings. -/
def strings (items : List String) : Document := list (items.map text)

/-- A value that may be absent. -/
def optional (write : α → Document) : Option α → Document
  | some a => write a
  | none => null

end Document

open Document

/-- The section of the local shell as a document. -/
def ShellSettings.toDocument (s : ShellSettings) : Document :=
  table [("shell", text s.program), ("shell_args", strings s.arguments),
    ("open_command", text s.openCommand),
    ("environment", table (s.environment.map fun (k, v) => (k, text v))),
    ("working_directory", optional text s.workingDirectory)]

/-- The section of remote sessions as a document. -/
def RemoteSettings.toDocument (s : RemoteSettings) : Document :=
  table [("default_user", text s.defaultUser), ("default_port", number s.defaultPort),
    ("superuser", text s.superuser), ("connect_attempts", number s.connectAttempts),
    ("connect_timeout_secs", number s.connectTimeoutSeconds), ("sudo_marker", text s.sudoMarker),
    ("password_cue", text s.passwordCue),
    ("password_cue_timeout_ms", number s.passwordCueTimeoutMilliseconds),
    ("ssh_program", text s.shellProgram), ("scp_program", text s.copyProgram),
    ("extra_ssh_args", strings s.extraArguments)]

/-- The section of the screen as a document. -/
def DisplaySettings.toDocument (s : DisplaySettings) : Document :=
  table [("width", optional number s.width), ("rows", number s.rows),
    ("redraw_anchor_row", number s.anchorRow)]

/-- A policy as a document. -/
def Command.Policy.toDocument (p : Policy) : Document :=
  table [("rule", text p.rule.name), ("skip", number p.skip)]

/-- All settings as a document. -/
def Settings.toDocument (s : Settings) : Document :=
  table [("local", s.shell.toDocument), ("remote", s.remote.toDocument),
    ("display", s.display.toDocument),
    ("capture", table (s.capture.map fun (k, p) => (k, p.toDocument)))]

end ScriptedShell
