/-
# Starting shells

How a task becomes a shell: its environment becomes variables, its first arguments are options, and
its script is an argument, a file or the input.
-/
import ScriptedShell.Local.Script.Evaluate

namespace ScriptedShell.Local.Script

open Files Text

/-- How deep commands can stand inside each other. -/
def maxFuel : Nat := 100000

/-- The variables that every shell begins with. -/
def firstVariables : List (String × String) :=
  [("IFS", " \t\n"), ("PATH", defaultSearch), ("PS1", "# "), ("PS2", "> "), ("PS4", "+ "),
    ("OPTIND", "1")]

/-- The path of the directory of a task: the one in its environment if it leads there. -/
def startPath (t : Tree) (task : Task) : String :=
  let plain := toOctets (Tree.pathOf task.directory)
  match task.environment.lookup "PWD" with
  | some path =>
    if Path.isAbsolute path then
      match t.locate [] (ofOctets path) with
      | .ok place => if place = task.directory then path else plain
      | .error _ => plain
    else plain
  | none => plain

/-- Take the variables of an environment over. -/
def takeEnvironment (environment : List (String × String)) (vars : List (String × Variable)) :
    List (String × Variable) :=
  environment.foldl (fun vs (name, value) =>
    let fixed := name = "IFS" || name = "OPTIND"
    let v : Variable := { value := some value, isExported := true }
    if !Sh.isVariableName name || fixed then vs
    else if (vs.lookup name).isSome then vs.map fun p => if p.1 = name then (name, v) else p
    else vs ++ [(name, v)]) vars

/-- The shell that a task becomes. -/
def startShell (task : Task) (system : System) : Shell :=
  let path := startPath system.tree task
  let own := firstVariables.map fun (name, value) =>
    (name, ({ value := some value } : Variable))
  let given := task.environment ++ [("PWD", path)]
  let vars := takeEnvironment given own ++
    [("PPID", ({ value := some (toString task.parent) } : Variable))]
  { system, streams := task.streams, name := task.name, directory := task.directory, path
    mask := task.mask, process := task.process, parent := task.parent
    mainProcess := task.process, vars, deadline := task.deadline }

/-- What a shell is asked to do. -/
inductive Source where
  | script (text : String)
  | file (path : String)
  | input
  deriving Repr, DecidableEq

/-- Set options from the letters of one argument; those that are not the shell's own are given
back. -/
def setLetters (isOn : Bool) : List Char → List String → Sh (List Char × List String)
  | [], rest => return ([], rest)
  | c :: cs, rest => do
    if c = 'c' || c = 'l' then
      let (own, rest) ← setLetters isOn cs rest
      return (c :: own, rest)
    else if c = 'o' then
      match rest with
      | [] =>
        let _ ← Builtin.showOptions isOn
        setLetters isOn cs rest
      | name :: others =>
        Builtin.setNamedOption name isOn
        setLetters isOn cs others
    else
      Builtin.setOption c isOn
      setLetters isOn cs rest

/-- Read the options at the front of arguments: whether a script is given as an argument, and the
other arguments. -/
def startOptions : Nat → List String → Sh (Bool × List String)
  | 0, arguments => return (false, arguments)
  | _ + 1, [] => return (false, [])
  | fuel + 1, a :: rest =>
    match a.toList with
    | ['-'] | ['-', '-'] => return (false, rest)
    | sign :: letters =>
      if sign = '-' || sign = '+' then do
        let (own, rest) ← setLetters (sign = '-') letters rest
        let (isScript, rest) ← startOptions fuel rest
        return (isScript || own.elem 'c', rest)
      else return (false, a :: rest)
    | [] => return (false, a :: rest)

/-- What the arguments of a shell ask for. -/
def startArguments (arguments : List String) : Sh Source := do
  Sh.setLine 0
  let (isScript, rest) ← startOptions (arguments.length + 1) arguments
  let isInput ← Sh.hasOption 's'
  let (source, rest) ← match isScript, rest with
    | true, [] => Sh.fail "-c requires an argument"
    | true, text :: rest => do
      match rest with
      | [] => pure ()
      | name :: _ => modify fun shell => { shell with name }
      pure (Source.script text, rest.drop 1)
    | false, [] => do
      if !isInput then Builtin.setOption 's' true
      pure (Source.input, [])
    | false, path :: rest => do
      if isInput then pure (Source.input, path :: rest)
      else
        modify fun shell => { shell with commandName := none }
        pure (Source.file path, rest)
  modify fun shell => { shell with parameters := rest }
  return source

/-- The text of a script. -/
def sourceText : Source → Sh (List Char)
  | .script text => return text.toList
  | .file path => do
    let shell ← get
    match shell.system.tree.read shell.directory (ofOctets path) with
    | .error fault => Sh.fail ("cannot open " ++ path ++ ": " ++ openText false fault)
    | .ok bytes =>
      modify fun shell => { shell with name := path }
      return octets bytes
  | .input => do
    let shell ← get
    match (shell.streams.lookup 0).map shell.system.readAll with
    | some (.ok (text, system)) =>
      set { shell with system }
      return text
    | _ => return []

/-- Run a shell to its end. -/
def shellAct (arguments : List String) : Sh Ended := do
  let result ← (do
    let text ← sourceText (← startArguments arguments)
    Sh.setLine 1
    let status ← runText maxFuel {} text ""
    Sh.setStatus status).outcome
  atEnd maxFuel result

/-- The shell as a program. -/
def shell (run : Runner) : Program := fun task => fun (system : System) =>
  match shellAct task.arguments run (startShell task system) with
  | (.ok (.code n), shell) => (.ok n, shell.system)
  | (.ok ended, shell) => (.error ended, shell.system)
  | (.error _, shell) => (.ok 2, shell.system)

end ScriptedShell.Local.Script
