/-
# Files of settings

Each format says how settings are written as the text of a file and read back from it.  Settings are
loaded from the file at a path, saved to one, or searched for at several places, where the first
file that can be read is used.  The extension of a path decides on the format.
-/
import ScriptedShell.Local.Machine
import ScriptedShell.Settings.Json.Printer
import ScriptedShell.Settings.Json.Reader
import ScriptedShell.Settings.Schema
import ScriptedShell.Settings.Toml.Printer
import ScriptedShell.Settings.Toml.Reader
import ScriptedShell.Settings.Validity

namespace ScriptedShell

/-! ## Formats -/

/-- A format of settings: writing and reading, each of which can fail for a reason. -/
structure Codec where
  encode : Settings → Except String String
  decode : String → Except String Settings

namespace Codec

/-- The codec of a format that is printed and read as documents. -/
def ofDocuments (format : FileFormat) (print : Document → String)
    (read? : String → Option Document) : Codec where
  encode settings := .ok (print settings.toDocument)
  decode text :=
    match read? text with
    | none => .error "the text is malformed"
    | some d =>
      match Settings.ofDocument? format d with
      | none => .error "a value has a wrong type"
      | some settings => .ok settings

/-- Settings as TOML. -/
def toml : Codec := ofDocuments .toml Toml.print Toml.read?

/-- Settings as JSON. -/
def json : Codec := ofDocuments .json Json.print Json.read?

/-- The codec of each format. -/
def standard : FileFormat → Codec
  | .toml => toml
  | .json => json

end Codec

namespace Storage

open Files Local

/-! ## Formats of paths -/

/-- The extension of files of a format. -/
def extensionOf : FileFormat → String
  | .toml => "toml"
  | .json => "json"

/-- The format that the extension of a path names. -/
def formatOf? (path : String) : Option FileFormat :=
  match Path.extension? path with
  | some "toml" => some .toml
  | some "json" => some .json
  | _ => none

/-- The format of a file: the one that its extension names, else TOML. -/
def formatOf (path : String) : FileFormat := (formatOf? path).getD .toml

/-! ## Loading and saving -/

/-- The settings in the file at a path, whether they are valid or not. -/
def read (codecs : FileFormat → Codec) (m : Machine) (format : FileFormat) (path : String) :
    Except Failure Settings :=
  match m.tree.readText m.place path with
  | .error fault => .error (.settingsUnreadable path fault.message)
  | .ok text =>
    match (codecs format).decode text with
    | .error reason => .error (.settingsMalformed format.title reason)
    | .ok settings => .ok settings

/-- Load the settings in the file at a path, which must be valid. -/
def load (codecs : FileFormat → Codec) (m : Machine) (path : String) : Except Failure Settings := do
  (← read codecs m (formatOf path) path).validate

/-- Write settings to the file at a path, in a directory that is there. -/
def write (codecs : FileFormat → Codec) (m : Machine) (settings : Settings) (path : String) :
    Except Failure Tree :=
  match (codecs (formatOf path)).encode settings with
  | .error reason => .error (.settingsNotSerialized (formatOf path).title reason)
  | .ok text =>
    match m.tree.write m.place path text.toUTF8.toList with
    | .error fault => .error (.fileAccess fault.message)
    | .ok tree => .ok tree

/-- Save settings to the file at a path, after making the directories on the way to it: why it
failed, if it did, and the machine afterwards. -/
def save (codecs : FileFormat → Codec) (m : Machine) (settings : Settings) (path : String) :
    Option Failure × Machine :=
  match m.tree.makeDirectories m.place ((Path.parent? path).getD "") with
  | .error fault => (some (.fileAccess fault.message), m)
  | .ok tree =>
    let m := { m with tree }
    match write codecs m settings path with
    | .error failure => (some failure, m)
    | .ok tree => (none, { m with tree })

/-! ## Searching -/

/-- The name of the directories and files that settings are searched in. -/
def searchName : String := "shellrunner"

/-- The variable that names the directory of all settings of the user. -/
def settingsVariable : String := "XDG_CONFIG_HOME"

/-- The directory of all settings of the user: the one that a variable names, if its path is
absolute, else a fixed one in the user's own directory. -/
def userDirectory? (m : Machine) : Option String :=
  match (m.environment.lookup settingsVariable).filter Path.isAbsolute with
  | some directory => some directory
  | none => m.home?.map fun home => Path.join home ".config"

/-- The base path of files of settings in a directory of settings. -/
def baseIn (directory : String) : String := Path.join (Path.join directory searchName) "config"

/-- The base path of hidden files of settings in a directory. -/
def hiddenIn (directory : String) : String := Path.join directory ("." ++ searchName)

/-- The base paths that are searched unless others are given. -/
def standardBases (m : Machine) : List String :=
  (userDirectory? m).toList.map baseIn ++
    (m.environment.lookup settingsVariable).toList.map baseIn ++
    m.home?.toList.map hiddenIn ++ [hiddenIn m.currentPath]

/-- The files that are looked at for base paths: for each of them, the one of each format. -/
def candidates (bases : List String) : List (FileFormat × String) :=
  bases.flatMap fun base =>
    [FileFormat.toml, .json].map fun format =>
      (format, Path.withExtension base (extensionOf format))

/-- The settings in a candidate that is there and can be read, with its path. -/
def readCandidate? (codecs : FileFormat → Codec) (m : Machine) (candidate : FileFormat × String) :
    Option (String × Settings) :=
  if m.tree.reaches m.place candidate.2 then
    ((read codecs m candidate.1 candidate.2).toOption).map fun settings => (candidate.2, settings)
  else none

/-- The settings in the first candidate that can be read, with its path. -/
def find? (codecs : FileFormat → Codec) (m : Machine) (bases : List String) :
    Option (String × Settings) :=
  (candidates bases).findSome? (readCandidate? codecs m)

/-- How settings are searched for. -/
structure SearchOptions where
  /-- Whether the default settings are used when no file can be read. -/
  useDefault : Bool := true
  /-- Whether settings must be valid. -/
  validate : Bool := true

/-- Settings that have been found, after validation if that is asked for. -/
def SearchOptions.check (options : SearchOptions) (settings : Settings) : Except Failure Settings :=
  if options.validate then settings.validate else .ok settings

/-- Search for settings: the settings or why there are none, and the path that they are from. -/
def search (codecs : FileFormat → Codec) (m : Machine) (bases : List String)
    (options : SearchOptions) : Except Failure Settings × Option String :=
  match find? codecs m bases with
  | some (path, settings) => (options.check settings, some path)
  | none =>
    (if options.useDefault then options.check .default else .error .settingsNotFound, none)

/-- The settings to begin with: those found at the base paths of the machine, or the default ones
when none are found or those found are not valid. -/
def initial (codecs : FileFormat → Codec) (m : Machine) : Settings :=
  match (search codecs m (standardBases m) {}).1 with
  | .ok settings => settings
  | .error _ => .default

end Storage

end ScriptedShell
