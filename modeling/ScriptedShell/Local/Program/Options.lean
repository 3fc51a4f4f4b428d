/-
# Options

The options of programs: letters after a dash, several of them in one argument, and long names after
two dashes, which can be cut short as long as they are clear.
-/
import ScriptedShell.Local.Task
import ScriptedShell.Text.Named

namespace ScriptedShell.Local.Program

open Act Text

/-- What follows an option. -/
inductive Takes where
  | nothing
  | value
  /-- A value that has to stand in the same argument. -/
  | attached
  deriving Repr, DecidableEq

/-- An option that a program knows. -/
structure Known where
  /-- The letter that stands for the option; a long name alone has one that nobody writes. -/
  key : Char
  long : String := ""
  takes : Takes := .nothing
  hasLetter : Bool := true
  deriving Repr

/-- The options of letters that take nothing, with their long names. -/
def flags (options : List (Char × String)) : List Known :=
  options.map fun (key, long) => { key, long }

/-- The options of letters that take a value, with their long names. -/
def valued (options : List (Char × String)) : List Known :=
  options.map fun (key, long) => { key, long, takes := .value }

/-- The options that have long names only. -/
def longFlags (options : List (Char × String)) : List Known :=
  options.map fun (key, long) => { key, long, hasLetter := false }

/-- What is wrong with options. -/
inductive OptionFault where
  | unknownLetter (c : Char)
  | unknownName (name : String)
  | unclearName (name : String) (names : List String)
  | letterNeedsValue (c : Char)
  | nameNeedsValue (name : String)
  | nameTakesNone (name : String)
  deriving Repr, DecidableEq

/-- The wording of a fault. -/
def OptionFault.text : OptionFault → String
  | unknownLetter c => "invalid option -- '" ++ String.singleton c ++ "'"
  | unknownName name => "unrecognized option '--" ++ name ++ "'"
  | unclearName name names =>
    "option '--" ++ name ++ "' is ambiguous; possibilities:" ++
      String.join (names.map fun n => " '--" ++ n ++ "'")
  | letterNeedsValue c => "option requires an argument -- '" ++ String.singleton c ++ "'"
  | nameNeedsValue name => "option '--" ++ name ++ "' requires an argument"
  | nameTakesNone name => "option '--" ++ name ++ "' doesn't allow an argument"

/-- Options that have been read, in order, with their values. -/
abbrev Chosen := List (Char × String)

namespace Chosen

/-- Whether an option has been chosen. -/
def has (c : Chosen) (key : Char) : Bool := List.any c fun p => p.1 = key

/-- The value of the last choice of an option. -/
def last? (c : Chosen) (key : Char) : Option String :=
  (List.find? (fun p => p.1 = key) (List.reverse c)).map (·.2)

/-- The last of some options that has been chosen. -/
def lastOf? (c : Chosen) (keys : List Char) : Option Char :=
  (List.find? (fun p => keys.elem p.1) (List.reverse c)).map (·.1)

/-- All values of an option. -/
def all (c : Chosen) (key : Char) : List String :=
  List.filterMap (fun p => if p.1 = key then some p.2 else none) c

end Chosen

/-- The letters of one argument as options; a letter that takes a value may take the next
argument. -/
def readLetters (known : List Known) : List Char → List String →
    Except OptionFault (Chosen × List String)
  | [], rest => .ok ([], rest)
  | c :: cs, rest =>
    match known.find? fun k => k.hasLetter && k.key = c with
    | none => .error (.unknownLetter c)
    | some k =>
      match k.takes with
      | .nothing => do
        let (more, rest) ← readLetters known cs rest
        return ((c, "") :: more, rest)
      | .attached => .ok ([(c, String.ofList cs)], rest)
      | .value =>
        match cs, rest with
        | [], [] => .error (.letterNeedsValue c)
        | [], value :: rest => .ok ([(c, value)], rest)
        | cs, rest => .ok ([(c, String.ofList cs)], rest)

/-- A long name as an option. -/
def readName (known : List Known) (text : List Char) (rest : List String) :
    Except OptionFault ((Char × String) × List String) :=
  let (front, after) := text.span (· != '=')
  let name := String.ofList front
  let exact := known.filter fun k => k.long = name && !name.isEmpty
  let close := known.filter fun k => front.isPrefixOf k.long.toList && !name.isEmpty
  let found := if exact.isEmpty then close else exact
  match found with
  | [] => .error (.unknownName (String.ofList text))
  | k :: others =>
    if others.any fun o => o.key != k.key then .error (.unclearName name (found.map (·.long)))
    else match k.takes, after with
      | .nothing, [] => .ok ((k.key, ""), rest)
      | .nothing, _ => .error (.nameTakesNone k.long)
      | .attached, after => .ok ((k.key, String.ofList (after.drop 1)), rest)
      | .value, _ :: value => .ok ((k.key, String.ofList value), rest)
      | .value, [] =>
        match rest with
        | [] => .error (.nameNeedsValue k.long)
        | value :: rest => .ok ((k.key, value), rest)

/-- The options among arguments, and the other arguments.  Unless `stops`, options can follow other
arguments. -/
def readOptions (known : List Known) (stops : Bool) : Nat → List String →
    Except OptionFault (Chosen × List String)
  | 0, arguments => .ok ([], arguments)
  | _ + 1, [] => .ok ([], [])
  | fuel + 1, a :: rest =>
    match a.toList with
    | ['-', '-'] => .ok ([], rest)
    | '-' :: '-' :: name => do
      let (one, rest) ← readName known name rest
      let (more, operands) ← readOptions known stops fuel rest
      return (one :: more, operands)
    | '-' :: c :: cs => do
      let (found, rest) ← readLetters known (c :: cs) rest
      let (more, operands) ← readOptions known stops fuel rest
      return (found ++ more, operands)
    | _ =>
      if stops then .ok ([], a :: rest)
      else do
        let (more, operands) ← readOptions known stops fuel rest
        return (more, a :: operands)

/-- Say how help can be had, and end. -/
def seeHelp (status : Nat) : Act α := do
  let name := (← read).name
  complainRaw ("Try '" ++ name ++ " --help' for more information.\n")
  quit status

/-- Say what is wrong with the arguments, and end. -/
def misused (status : Nat) (text : String) : Act α := do
  complain text
  seeHelp status

/-- The options and the other arguments of a task. -/
def options (known : List Known) (status : Nat) (stops : Bool) :
    Act (Chosen × List String) := do
  let arguments ← arguments
  match readOptions known stops (arguments.length + 1) arguments with
  | .ok read => return read
  | .error fault => misused status fault.text

/-- Say that an operand is missing, and end. -/
def missingOperand (status : Nat) : Act α := misused status "missing operand"

/-- Say that an operand is not wanted, and end. -/
def extraOperand (status : Nat) (operand : String) : Act α :=
  misused status ("extra operand " ++ Named.quoted operand)

/-- Do something for each of some things; the status is that of the last failure, or zero. -/
def forEach (things : List α) (act : α → Act Nat) : Act Nat := do
  let mut status := 0
  for thing in things do
    let n ← act thing
    if n != 0 then status := n
  return status

/-- Complain about a file. -/
def complainOf (path : String) (fault : String) : Act Unit :=
  complain (Named.shown path ++ ": " ++ fault)

/-- Read the operands that can be read, or the input when there are none, and complain about the
others; whether all could be read comes with them. -/
def readOperands (paths : List String) : Act (Bool × List (String × List Char)) := do
  let mut isFine := true
  let mut found := #[]
  for path in if paths.isEmpty then ["-"] else paths do
    match ← readOperand path with
    | .ok text => found := found.push (path, text)
    | .error fault =>
      complainOf path fault.text
      isFine := false
  return (isFine, found.toList)

end ScriptedShell.Local.Program
