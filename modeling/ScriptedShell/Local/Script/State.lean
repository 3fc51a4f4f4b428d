/-
# States of shells

What a running shell has: the system, its streams, a directory, variables, parameters, functions and
options.  An action of a shell changes the state; it may not come to its end, because the script
ends, a loop is left or a command fails.  What goes wrong apart from commands is a fault, with its
wording in the two languages.
-/
import ScriptedShell.Local.Script.Computation
import ScriptedShell.Local.Script.Syntax
import ScriptedShell.Local.Signal
import ScriptedShell.Local.Task

namespace ScriptedShell.Local.Script

open Files Text

/-! ## Faults -/

/-- What goes wrong while a script is carried out. -/
inductive Fault where
  | readOnly (name : String)
  | badName (name : String)
  /-- A parameter has no value, and all must have one. -/
  | unset (name : String)
  /-- A parameter that is demanded is missing, or empty; a text can say what that means. -/
  | demanded (name : String) (orEmpty : Bool) (text : Option String)
  /-- Nothing can be made of a parameter in this way. -/
  | meaningless (text : String)
  /-- A file cannot be opened for a stream; `makes` says whether it would be made. -/
  | closedFile (path : String) (makes : Bool) (fault : FileFault)
  | badStream (text : String)
  deriving Repr, DecidableEq

/-- Why a file cannot be opened, in the words of the standard language. -/
def openText (makes : Bool) : FileFault → String
  | .missing | .notDirectory => if makes then "Directory nonexistent" else "No such file"
  | fault => fault.text

/-- Why a file cannot be opened, in the words of the extended language. -/
def extendedOpenText (makes : Bool) : FileFault → String
  | .exists => if makes then "cannot overwrite existing file" else FileFault.exists.text
  | fault => fault.text

/-- The wording of a fault. -/
def Fault.text : Dialect → Fault → String
  | .standard, readOnly name => name ++ ": is read only"
  | .extended, readOnly name => name ++ ": readonly variable"
  | .standard, badName name => name ++ ": bad variable name"
  | .extended, badName name => "`" ++ name ++ "': not a valid identifier"
  | .standard, unset name => name ++ ": parameter not set"
  | .extended, unset name => name ++ ": unbound variable"
  | .standard, demanded name orEmpty none =>
    name ++ ": parameter not set" ++ (if orEmpty then " or null" else "")
  | .extended, demanded name orEmpty none =>
    name ++ ": parameter " ++ (if orEmpty then "null or " else "") ++ "not set"
  | _, demanded name _ (some text) => name ++ ": " ++ text
  | .standard, meaningless _ => "Bad substitution"
  | .extended, meaningless text => text ++ ": bad substitution"
  | .standard, closedFile path makes fault =>
    "cannot " ++ (if makes then "create " else "open ") ++ path ++ ": " ++ openText makes fault
  | .extended, closedFile path makes fault => path ++ ": " ++ extendedOpenText makes fault
  | _, badStream text => text ++ ": Bad file descriptor"

/-- Whether a script of the extended language ends at a fault. -/
def Fault.isFatal : Fault → Bool
  | unset _ | demanded _ _ _ => true
  | _ => false

/-! ## What a shell has -/

/-- A variable of a shell. -/
structure Variable where
  /-- A variable can be known by name before it has a value. -/
  value : Option String := none
  isExported : Bool := false
  isReadonly : Bool := false
  /-- The items, if the variable is an array; its value is the one with the number zero. -/
  items : Option Items := none
  /-- Whether values are expressions that are computed. -/
  isInteger : Bool := false
  /-- Whether the letters of values are made large, or small. -/
  casing : Option Bool := none
  deriving Repr, DecidableEq

namespace Variable

/-- A variable with other items. -/
def withItems (v : Variable) (items : Items) : Variable :=
  { v with items := some items, value := items.get? "0" }

/-- A variable with another value. -/
def withValue (v : Variable) (value : String) : Variable :=
  match v.items with
  | none => { v with value := some value }
  | some items => v.withItems (items.put "0" value)

/-- The items of a variable: the one of a plain one has the number zero. -/
def asItems (v : Variable) : Items :=
  match v.items with
  | some items => items
  | none => Items.ofList v.value.toList

end Variable

/-- A command that runs in the background; it runs when something waits for it. -/
structure Job where
  number : Nat
  process : Nat
  work : System → Ended × System
  /-- How it has ended. -/
  ended : Option Ended := none

/-- A running shell. -/
structure Shell where
  system : System
  streams : Streams
  /-- The name that its messages begin with. -/
  name : String
  parameters : List String := []
  directory : Place
  /-- The path of the directory, by the names that led to it. -/
  path : String
  mask : Nat := 0o22
  process : Nat
  parent : Nat
  vars : List (String × Variable) := []
  /-- What the variables of each running function were before they became its own. -/
  saved : List (List (String × Option Variable)) := []
  functions : List (String × Command) := []
  aliases : List (String × String) := []
  /-- The paths of programs that have been looked for. -/
  hashed : List (String × String) := []
  /-- The letters of the options that are set. -/
  options : List Char := []
  /-- What is done for signals; the signal 0 is the end of the script. -/
  traps : List (Nat × String) := []
  /-- The main shell, whose number a script knows: subshells have numbers of their own. -/
  mainProcess : Nat
  status : Nat := 0
  /-- The status of the last script whose output was put into a word. -/
  substituted : Nat := 0
  line : Nat := 1
  /-- The command of the shell that is running. -/
  commandName : Option String := none
  loops : Nat := 0
  /-- The number of functions that have been called and not come back. -/
  calls : Nat := 0
  isFunction : Bool := false
  /-- The texts for input that commands know by number. -/
  documents : List (Nat × Word) := []
  nextDocument : Nat := 0
  /-- The argument that options of the script are taken from next, and how many letters of the one
  before it have been taken. -/
  optionIndex : Nat := 1
  optionLetter : Nat := 0
  jobs : List Job := []
  lastJob : Option Nat := none
  /-- Whether signals are carried out now. -/
  isTrapping : Bool := false
  /-- When the shell has to be done, if that is limited. -/
  deadline : Option Nat := none
  dialect : Dialect := .standard
  /-- The options of the extended language that have names only. -/
  choices : List String := []
  /-- The statuses of the commands of the last pipeline. -/
  pipeStatuses : List Nat := []
  /-- The functions and files that are carried out, each with the file that it comes from, the last
  one first. -/
  frames : List (String × String) := []
  /-- The files that functions come from. -/
  origins : List (String × String) := []
  /-- The directories that have been left to come back to, the last one first. -/
  trail : List String := []
  /-- The commands of the shell that are not to be used. -/
  disabled : List String := []
  /-- Scripts that read what a command has written to their paths, with the open files. -/
  pending : List (Nat × Command) := []
  /-- The items that arguments of a command of the shell give to arrays. -/
  compounds : List (String × List (Option String × String × Bool)) := []
  /-- How many scripts are carried out inside each other: those whose output is meant, and texts. -/
  nesting : Nat := 0
  /-- The number that random numbers are made of. -/
  seed : Nat := 1

namespace Shell

/-- Whether the script is in the extended language. -/
def isExtended (shell : Shell) : Bool := shell.dialect = .extended

/-- Whether the script is a file. -/
def isFile (shell : Shell) : Bool := !shell.options.elem 'c' && !shell.options.elem 's'

/-- The name that messages of the shell begin with. -/
def reporter (shell : Shell) : String :=
  match shell.dialect, shell.frames with
  | .extended, (_, path) :: _ => path
  | _, _ => shell.name

/-- Where the functions come from that are defined now. -/
def definingFile (shell : Shell) : String :=
  match shell.frames with
  | (_, path) :: _ => path
  | [] => if shell.isFile then shell.name else "environment"

/-- What expressions see of the variables. -/
def scope (shell : Shell) : Computation.Scope :=
  { value := fun name => (shell.vars.lookup name).bind (·.value)
    items := fun name => (shell.vars.lookup name).bind (·.items) }

/-- The variables of the extended language that the shell computes when they are asked for. -/
def computed? (shell : Shell) (name : String) : Option Variable :=
  let array := fun (texts : List String) => some (Variable.withItems {} (.ofList texts))
  let plain := fun (text : String) => some ({ value := some text } : Variable)
  match name with
  | "PIPESTATUS" => array (shell.pipeStatuses.map toString)
  | "FUNCNAME" =>
    if shell.isFunction then
      array (shell.frames.map (·.1) ++ if shell.isFile then ["main"] else [])
    else none
  | "BASH_SOURCE" =>
    array (shell.frames.map (·.2) ++ if shell.isFile then [shell.name] else [])
  | "DIRSTACK" => array (shell.path :: shell.trail)
  | "GROUPS" => array ["0"]
  | "LINENO" => plain (toString shell.line)
  | "SECONDS" => plain (toString (shell.system.clock / 1000))
  | "RANDOM" => plain (toString (shell.seed % 32768))
  | "BASHPID" => plain (toString shell.process)
  | "BASH_SUBSHELL" => plain (if shell.process = shell.mainProcess then "0" else "1")
  | _ => none

end Shell

/-- Why an action does not come to its end. -/
inductive Flow where
  | exit
  /-- Something is wrong; the script ends unless a command of the shell was at work. -/
  | failed
  | killed (signal : Nat)
  /-- Loops are left, this many of them. -/
  | leave (loops : Nat)
  /-- A loop goes on with its next round, after this many loops inside it have been left. -/
  | again (loops : Nat)
  /-- The function, or the script, goes back to where it was called. -/
  | returned
  deriving Repr, DecidableEq

/-- An action of a shell, which can run tasks. -/
abbrev Sh := ReaderT Runner (ExceptT Flow (StateM Shell))

/-- Run an action to its end, whatever the end is. -/
def Sh.outcome (act : Sh α) : Sh (Except Flow α) := fun run shell =>
  match ReaderT.run act run shell with
  | (result, shell) => (.ok result, shell)

/-- Go on as an outcome does. -/
def Sh.proceed : Except Flow α → Sh α
  | .ok a => return a
  | .error flow => throw flow

namespace Sh

/-! ## Messages -/

/-- Write to a stream: nothing, or why it cannot be written to. -/
def tryWrite (stream : Nat) (text : String) : Sh (Option StreamFault) := do
  let shell ← get
  match shell.streams.lookup stream with
  | none => return some .badStream
  | some file =>
    match shell.system.write file text with
    | .ok system => set { shell with system }; return none
    | .error .brokenPipe => throw (.killed pipeSignal)
    | .error fault => return some fault

/-- Write to the error output. -/
def complainRaw (text : String) : Sh Unit := do let _ ← tryWrite 2 text

/-- Write a message about the line that is carried out. -/
def warn (text : String) : Sh Unit := do
  let shell ← get
  let command := match shell.commandName with
    | some name => name ++ ": "
    | none => ""
  let line := (if shell.isExtended then "line " else "") ++ toString shell.line
  complainRaw (shell.reporter ++ ": " ++ line ++ ": " ++ command ++ text ++ "\n")

/-- Whether the script is in the extended language. -/
def isExtended : Sh Bool := return (← get).isExtended

/-- Say what is wrong, and give up with a status. -/
def failWith (status : Nat) (text : String) : Sh α := do
  warn text
  modify fun shell => { shell with status }
  throw .failed

/-- Say what is wrong, and give up. -/
def fail (text : String) : Sh α := do failWith (if ← isExtended then 1 else 2) text

/-- Give up for a fault. -/
def refuse (fault : Fault) : Sh α := do
  let dialect := (← get).dialect
  match dialect, fault.isFatal with
  | .extended, true =>
    warn (fault.text dialect)
    modify fun shell => { shell with status := if shell.options.elem 'e' then 1 else 127 }
    throw .exit
  | dialect, _ => fail (fault.text dialect)

/-- Write to the output of a command of the shell, and say whether that could be done. -/
def print (text : String) : Sh Bool := do
  if text.isEmpty then return true
  match ← tryWrite 1 text with
  | none => return true
  | some fault =>
    warn (if ← isExtended then "write error: " ++ fault.text else "I/O error")
    return false

/-! ## Options -/

/-- Whether an option is set. -/
def hasOption (letter : Char) : Sh Bool := return (← get).options.elem letter

/-! ## Variables -/

/-- Whether an option of the extended language is set. -/
def hasChoice (name : String) : Sh Bool := return (← get).choices.elem name

/-- The variable with a name. -/
def bindingOf? (name : String) : Sh (Option Variable) := do
  let shell ← get
  match if shell.isExtended then shell.computed? name else none with
  | some v =>
    if name = "RANDOM" then
      set { shell with seed := (shell.seed * 16807) % 2147483647 }
    return some v
  | none => return shell.vars.lookup name

/-- The value of a variable. -/
def valueOf? (name : String) : Sh (Option String) := return (← bindingOf? name).bind (·.value)

/-- Put a variable in place of the one with its name. -/
def putVariable (name : String) (v : Variable) : Sh Unit :=
  modify fun shell =>
    { shell with vars :=
        if (shell.vars.lookup name).isSome then
          shell.vars.map fun (n, old) => if n = name then (n, v) else (n, old)
        else shell.vars ++ [(name, v)] }

/-- Whether a text can name a variable. -/
def isVariableName (name : String) : Bool :=
  match name.toList with
  | [] => false
  | c :: cs => (c.isAlpha || c = '_') && cs.all fun c => c.isAlphanum || c = '_'

mutual

/-- The number of an expression in the extended language, with the numbers that it gives to
variables; the number bounds how many variables compute their values for each other. -/
def compute : (depth : Nat) → (text : String) → Sh Int
  | 0, _ => return 0
  | depth + 1, text => do
    match Computation.evaluate (← get).scope text with
    | .error failure => fail failure.message
    | .ok (n, assigned) =>
      for (slot, value) in assigned do
        match slot.index with
        | none => assignAt depth slot.name (toString value) false
        | some key => assignItem depth slot.name key (toString value) false
      return n

/-- The text that becomes the value of a variable. -/
def converted (depth : Nat) (v : Variable) (value : String) : Sh String :=
  match depth with
  | 0 => return value
  | depth + 1 => do
    if v.isInteger then return toString (← compute depth value)
    else match v.casing with
      | some true => return String.ofList (value.toList.map Char.toUpper)
      | some false => return String.ofList (value.toList.map Char.toLower)
      | none => return value

/-- Give a value to a variable. -/
def assignAt (depth : Nat) (name value : String) (exports : Bool) : Sh Unit :=
  match depth with
  | 0 => return ()
  | depth + 1 => do
    if !isVariableName name then refuse (.badName name)
    let old := ((← get).vars.lookup name).getD {}
    if old.isReadonly then refuse (.readOnly name)
    let isExported := old.isExported || exports || (← hasOption 'a')
    let value ← converted depth old value
    putVariable name { old.withValue value with isExported }

/-- Give a value to an item of an array, or add it to the value that is there. -/
def assignItem (depth : Nat) (name key value : String) (appends : Bool) : Sh Unit :=
  match depth with
  | 0 => return ()
  | depth + 1 => do
    let old := ((← get).vars.lookup name).getD {}
    if old.isReadonly then refuse (.readOnly name)
    let items := old.asItems
    let here := (items.get? key).getD ""
    let value := if !appends then value
      else if old.isInteger then here ++ "+" ++ value
      else here ++ value
    let value ← converted depth old value
    putVariable name (old.withItems (items.put key value))

end

/-- How many variables compute their values for each other at most. -/
def maxComputed : Nat := 100

/-- Give a value to a variable. -/
def assign (name value : String) (exports : Bool) : Sh Unit := do
  assignAt maxComputed name value exports
  if name = "OPTIND" then
    modify fun shell => { shell with
      optionIndex := max 1 ((value.toNat?).getD 1), optionLetter := 0 }
  else if name = "PATH" then modify fun shell => { shell with hashed := [] }

/-- Take a variable away. -/
def unset (name : String) : Sh Unit := do
  match ← bindingOf? name with
  | none => return
  | some v =>
    if v.isReadonly then
      if ← isExtended then fail (name ++ ": cannot unset: readonly variable")
      else refuse (.readOnly name)
    modify fun shell => { shell with vars := shell.vars.filter (·.1 != name) }

/-- The place of a name among those that variables are kept in. -/
def slotOf (name : String) : Nat :=
  let codes := name.toList.map Char.toNat
  (codes.foldl (· + ·) (16 * codes.headD 0)) % 39

/-- The variables that tasks get, in the order of their slots. -/
def environment (shell : Shell) : List (String × String) :=
  let exported := shell.vars.filterMap fun (name, v) =>
    match v.value with
    | some value => if v.isExported && v.items.isNone then some (name, value) else none
    | none => none
  if shell.isExtended then
    exported.reverse.mergeSort fun a b => scatterPlace a.1 ≤ scatterPlace b.1
  else exported.mergeSort fun a b => slotOf a.1 ≤ slotOf b.1

/-- Let a variable be the running function's own until it ends. -/
def makeLocal (name : String) : Sh Unit := do
  let shell ← get
  match shell.saved with
  | [] => return
  | frame :: frames =>
    if (frame.lookup name).isSome then return
    else set { shell with saved := ((name, shell.vars.lookup name) :: frame) :: frames }

/-- Begin a stretch of commands with vars of their own. -/
def enterFrame : Sh Unit := modify fun shell => { shell with saved := [] :: shell.saved }

/-- End the stretch: variables are what they were before. -/
def leaveFrame : Sh Unit :=
  modify fun shell =>
    match shell.saved with
    | [] => shell
    | frame :: frames =>
      let vars := frame.foldl (fun vs (name, old) =>
        match old with
        | none => vs.filter fun (p : String × Variable) => p.1 != name
        | some v =>
          if (vs.lookup name).isSome then
            vs.map fun (p : String × Variable) => if p.1 = name then (name, v) else p
          else vs ++ [(name, v)]) shell.vars
      { shell with vars, saved := frames }

/-! ## Parameters -/

/-- The letters of the options as a script sees them. -/
def optionText (shell : Shell) : String := String.ofList shell.options

/-- The value of a parameter: a variable, a number or one of the special characters. -/
def parameter? (name : String) : Sh (Option String) := do
  let shell ← get
  match name with
  | "?" => return some (toString shell.status)
  | "$" => return some (toString shell.mainProcess)
  | "#" => return some (toString shell.parameters.length)
  | "0" => return some shell.name
  | "-" => return some (optionText shell)
  | "!" => return shell.lastJob.map toString
  | _ =>
    if name.toList.all Char.isDigit then
      let n := name.toNat?.getD 0
      return if n = 0 then some shell.name else shell.parameters[n - 1]?
    else valueOf? name

end Sh

end ScriptedShell.Local.Script
