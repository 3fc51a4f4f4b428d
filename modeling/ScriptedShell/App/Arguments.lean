/-
# Arguments

Options stand before the script; the first argument that is no option begins the script, and from
there on every argument belongs to it.
-/

namespace ScriptedShell.App

/-- What can be said before the script. -/
inductive Flag where
  /-- The next argument is the path of the settings. -/
  | settings
  | debug
  | help
  | version
  deriving Repr, DecidableEq

/-- The flag that an argument is. -/
def Flag.ofArgument? : String → Option Flag
  | "--config" | "-c" => some .settings
  | "--debug" | "-d" => some .debug
  | "--help" | "-?" => some .help
  | "--version" | "-V" => some .version
  | _ => none

/-- What the options say. -/
structure Options where
  settingsPath : Option String := none
  /-- Whether the log is to be detailed; what the program prints does not depend on it. -/
  debug : Bool := false
  deriving Repr, DecidableEq

/-- What the arguments ask for. -/
inductive Request where
  | help
  | version
  /-- The path of the settings is announced and is not there. -/
  | pathMissing
  | run (options : Options) (script : List String)
  deriving Repr, DecidableEq

namespace Request

/-- Read arguments after options that say `options`. -/
def readArguments (options : Options) : List String → Request
  | [] => .run options []
  | argument :: rest =>
    match Flag.ofArgument? argument with
    | none => .run options (argument :: rest)
    | some .help => .help
    | some .version => .version
    | some .debug => readArguments { options with debug := true } rest
    | some .settings =>
      match rest with
      | [] => .pathMissing
      | path :: rest => readArguments { options with settingsPath := some path } rest

/-- What a list of arguments asks for. -/
def ofArguments (arguments : List String) : Request := readArguments {} arguments

end Request

/-- The line that runs a script given as arguments. -/
def scriptLine (script : List String) : String := String.intercalate " " ("run" :: script)

end ScriptedShell.App
