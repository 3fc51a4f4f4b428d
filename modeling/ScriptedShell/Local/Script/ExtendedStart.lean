/-
# Starting shells of the extended language

How a task becomes a shell of the extended language: the variables that it begins with, and what its
arguments ask for.
-/
import ScriptedShell.Local.Script.Start

namespace ScriptedShell.Local.Script

open Files Text

namespace Extended

/-! ## Variables -/

/-- The version of the language. -/
def versionText : String := "5.2.21(1)-release"

/-- The kind of the machine. -/
def machineText : String := "x86_64-pc-linux-gnu"

/-- The parts of the version. -/
def versionParts : List String := ["5", "2", "21", "1", "release", machineText]

/-- The variables that a shell begins with and that can be changed. -/
def firstVariables (path : String) : List (String × String) :=
  [("BASH", path), ("BASH_VERSION", versionText), ("HOSTTYPE", "x86_64"), ("IFS", " \t\n"),
    ("MACHTYPE", machineText), ("OPTERR", "1"), ("OPTIND", "1"), ("OSTYPE", "linux-gnu"),
    ("PATH", defaultSearch), ("PS4", "+ "), ("SHELL", "/bin/bash"), ("TERM", "dumb"), ("_", path)]

/-- The variables that keep their values. -/
def fixedVariables (task : Task) : List (String × Variable) :=
  let number := fun (n : Nat) =>
    ({ value := some (toString n), isReadonly := true, isInteger := true } : Variable)
  let text := fun (text : String) => ({ value := some text, isReadonly := true } : Variable)
  let further := Choices.further.filter Choices.first.elem
  [("UID", number 0), ("EUID", number 0), ("PPID", number task.parent),
    ("BASHOPTS", text (String.intercalate ":" further)),
    ("SHELLOPTS", text "braceexpand:hashall:interactive-comments"),
    ("BASH_VERSINFO", { Variable.withItems {} (.ofList versionParts) with isReadonly := true })]

/-- The level of a shell that is started by another one. -/
def levelAfter (level : Option String) : String :=
  match (level.map Arithmetic.decimal?).join with
  | some n => toString (n + 1)
  | none => "1"

/-- The shell that a task becomes. -/
def startShell (task : Task) (system : System) : Shell :=
  let path := startPath system.tree task
  let program := if task.name.toList.elem '/' then task.name
    else match findProgram system.tree task.directory
        ((task.environment.lookup "PATH").getD defaultSearch) task.name with
      | .ok path => path
      | .error _ => task.name
  let own := (firstVariables program).map fun (name, value) =>
    (name, ({ value := some value } : Variable))
  let given := task.environment.filter (fun p => p.1 != "SHLVL" && p.1 != "_") ++
    [("PWD", path), ("SHLVL", levelAfter (task.environment.lookup "SHLVL"))]
  let fixed := fixedVariables task
  let given := given.filter fun p => (fixed.lookup p.1).isNone
  let vars := takeEnvironment given own ++ fixed
  { system, streams := task.streams, name := task.name, directory := task.directory, path
    mask := task.mask, process := task.process, parent := task.parent
    mainProcess := task.process, vars, deadline := task.deadline
    dialect := .extended, options := Choices.firstLetters, choices := Choices.first }

/-! ## Arguments -/

/-- How a shell is started. -/
def usageText (name : String) : String :=
  let long := ["debug", "debugger", "dump-po-strings", "dump-strings", "help", "init-file", "login",
    "noediting", "noprofile", "norc", "posix", "pretty-print", "rcfile", "restricted", "verbose",
    "version"]
  "Usage:\t" ++ name ++ " [GNU long option] [option] ...\n\t" ++ name ++
    " [GNU long option] [option] script-file ...\nGNU long options:\n" ++
    String.join (long.map fun option => "\t--" ++ option ++ "\n") ++
    "Shell options:\n\t-ilrsD or -c command or -O shopt_option\t\t(invocation only)\n" ++
    "\t-abefhkmnptuvxBCEHPT or -o option\n"

/-- Complain about the arguments and end. -/
def refuseStart (text : String) (showsUsage : Bool) : Sh α := do
  let name := (← get).name
  Sh.complainRaw (name ++ ": " ++ text ++ "\n" ++ (if showsUsage then usageText name else ""))
  Sh.setStatus 2
  throw .exit

/-- What options at the start say: whether the script is an argument, or the input. -/
structure Started where
  isScript : Bool := false
  isInput : Bool := false
  deriving Repr, DecidableEq

/-- Take the letters of one argument as options, with the arguments after it. -/
def startLetters (isOn : Bool) : List Char → Started → List String →
    Sh (Started × List String)
  | [], s, rest => return (s, rest)
  | c :: cs, s, rest => do
    if c = 'c' then startLetters isOn cs { s with isScript := true } rest
    else if c = 's' then startLetters isOn cs { s with isInput := true } rest
    else if c = 'l' || c = 'i' || c = 'r' || c = 'D' then startLetters isOn cs s rest
    else if c = 'o' || c = 'O' then
      match rest with
      | [] => startLetters isOn cs s rest
      | name :: others =>
        if c = 'o' then
          if !(← Choices.setNamed name isOn) then
            refuseStart ((← get).name ++ ": " ++ name ++ ": invalid option name") false
        else if Choices.further.elem name then Choices.setFurther name isOn
        else refuseStart (name ++ ": invalid shell option name") false
        startLetters isOn cs s others
    else if ← Choices.setLetter c isOn then startLetters isOn cs s rest
    else
      refuseStart ((if isOn then "-" else "+") ++ String.singleton c ++ ": invalid option") true

/-- Long options that change nothing here. -/
def idleOptions : List String :=
  ["--login", "--noediting", "--noprofile", "--norc", "--posix", "--restricted", "--verbose",
    "--debugger", "--debug"]

/-- Read the options at the front of arguments. -/
def startOptions : Nat → Started → List String → Sh (Started × List String)
  | 0, s, arguments => return (s, arguments)
  | _ + 1, s, [] => return (s, [])
  | fuel + 1, s, a :: rest =>
    match a.toList with
    | ['-'] | ['-', '-'] => return (s, rest)
    | '-' :: '-' :: _ =>
      if idleOptions.elem a then startOptions fuel s rest
      else if a = "--rcfile" || a = "--init-file" then startOptions fuel s (rest.drop 1)
      else if a = "--version" then do
        let _ ← Sh.print ("GNU bash, version " ++ versionText ++ " (" ++ machineText ++ ")\n")
        Sh.setStatus 0
        throw .exit
      else refuseStart (a ++ ": invalid option") true
    | sign :: letters =>
      if sign = '-' || sign = '+' then do
        let (s, rest) ← startLetters (sign = '-') letters s rest
        startOptions fuel s rest
      else return (s, a :: rest)
    | [] => return (s, a :: rest)

/-- What the arguments of a shell ask for. -/
def startArguments (arguments : List String) : Sh Source := do
  let (s, rest) ← startOptions (arguments.length + 1) {} arguments
  let addLetter := fun (letter : Char) =>
    modify fun (shell : Shell) => { shell with options := shell.options ++ [letter] }
  modify fun shell => { shell with options := Choices.letters.filter shell.options.elem }
  let (source, rest) ← match s.isScript, rest with
    | true, [] => refuseStart "-c: option requires an argument" false
    | true, text :: rest => do
      match rest with
      | [] => pure ()
      | name :: _ => modify fun shell => { shell with name }
      addLetter 'c'
      Sh.putVariable "BASH_EXECUTION_STRING" { value := some text }
      pure (Source.script text, rest.drop 1)
    | false, [] => do
      addLetter 's'
      pure (Source.input, [])
    | false, path :: rest => do
      if s.isInput then
        addLetter 's'
        pure (Source.input, path :: rest)
      else pure (Source.file path, rest)
  modify fun shell => { shell with parameters := rest }
  return source

/-- The text of a script, and the label that faults in it are told with. -/
def sourceText (source : Source) : Sh (List Char × String) := do
  let shell ← get
  match source with
  | .script text => return (text.toList, "-c")
  | .file path =>
    let refuse := fun (text : String) (status : Nat) => do
      Sh.complainRaw (shell.name ++ ": " ++ text ++ "\n")
      Sh.setStatus status
      throw .exit
    match shell.system.tree.read shell.directory (ofOctets path) with
    | .error .isDirectory => refuse (path ++ ": Is a directory") 126
    | .error fault => refuse (path ++ ": " ++ fault.text) (if fault = .missing then 127 else 126)
    | .ok bytes =>
      modify fun shell => { shell with name := path }
      return (octets bytes, "")
  | .input => return (← Script.sourceText .input, "")

/-- Run a shell to its end. -/
def shellAct (arguments : List String) : Sh Ended := do
  let result ← (do
    let (text, label) ← sourceText (← startArguments arguments)
    let status ← runText maxFuel {} text label
    Sh.setStatus status).outcome
  atEnd maxFuel result

/-- The shell of the extended language as a program. -/
def shell (run : Runner) : Program := fun task => fun (system : System) =>
  match shellAct task.arguments run (startShell task system) with
  | (.ok (.code n), shell) => (.ok n, shell.system)
  | (.ok ended, shell) => (.error ended, shell.system)
  | (.error _, shell) => (.ok 2, shell.system)

end Extended

end ScriptedShell.Local.Script
