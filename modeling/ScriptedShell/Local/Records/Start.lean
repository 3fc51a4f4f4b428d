/-
# Starting rules

The program that carries out rules: its options, the text of the rules, and what the rules find when
they begin.
-/
import ScriptedShell.Local.Records.Evaluate

namespace ScriptedShell.Local.Records

open Act Number Text

/-- How the program is used. -/
def usage : String := "Usage: mawk [Options] [Program] [file ...]

Program:
    The -f option value is the name of a file containing program text.
    If no -f option is given, a \"--\" ends option processing; the following
    parameters are the program text.

Options:
    -f program-file  Program  text is read from file instead of from the
                     command-line.  Multiple -f options are accepted.
    -F value         sets the field separator, FS, to value.
    -v var=value     assigns value to program variable var.
    --               unambiguous end of options.

    Implementation-specific options are prefixed with \"-W\".  They can be
    abbreviated:

    -W version       show version information and exit.
    -W compat        pre-POSIX 2001.
    -W dump          show assembler-like listing of program and exit.
    -W help          show this message and exit.
    -W interactive   set unbuffered output, line-buffered input.
    -W exec file     use file as program as well as last option.
    -W posix         stricter POSIX checking.
    -W random=number set initial random seed.
    -W sprintf=number adjust size of sprintf buffer.
    -W usage         show this message and exit.
"

/-- The first line of what the program says about itself. -/
def versionLine : String := "mawk 1.3.4 20240123\n"

/-- What the options ask for. -/
structure Request where
  separator : Option String := none
  /-- The assignments, the last one first. -/
  assignments : List (String × String) := []
  /-- The files with the rules, the last one first. -/
  paths : List String := []

/-- Write a line to the error output after the name of the program, and end. -/
def refuse (text : String) : Act α := do
  complainRaw (Files.Tree.lastSegment (← read).name ++ ": " ++ text ++ "\n")
  quit 2

/-- A text with its backslashes replaced. -/
def plainText (s : String) : String :=
  String.ofList (Token.unescaped (s.length + 1) s.toList)

/-- Do what an option with a long name asks for. -/
def namedOption (name : String) : Act Unit := do
  match name with
  | "version" =>
    print versionLine
    quit 0
  | "help" | "usage" =>
    print usage
    quit 0
  | _ => return

/-- The names of the long options. -/
def longNames : List String :=
  ["version", "help", "usage", "compat", "dump", "interactive", "posix", "re-interval",
    "traditional"]

/-- What the options ask for, and the arguments after them. -/
def readRequest : (fuel : Nat) → Request → List String → Act (Request × List String)
  | 0, r, rest => return (r, rest)
  | _, r, [] => return (r, [])
  | fuel + 1, r, a :: rest => do
    let valueOf := fun (letter : Char) (inside : List Char) =>
      match inside, rest with
      | _ :: _, rest => (return (String.ofList inside, rest) : Act (String × List String))
      | [], value :: rest => return (value, rest)
      | [], [] => refuse ("option -" ++ String.singleton letter ++ " lacks argument")
    match a.toList with
    | ['-', '-'] => return (r, rest)
    | '-' :: '-' :: name =>
      if !longNames.elem (String.ofList name) then refuse ("not an option: " ++ a)
      namedOption (String.ofList name)
      readRequest fuel r rest
    | '-' :: 'f' :: inside =>
      let (value, rest) ← valueOf 'f' inside
      readRequest fuel { r with paths := value :: r.paths } rest
    | '-' :: 'F' :: inside =>
      let (value, rest) ← valueOf 'F' inside
      readRequest fuel { r with separator := some value } rest
    | '-' :: 'v' :: inside =>
      let (value, rest) ← valueOf 'v' inside
      match Handling.assignment? value with
      | some found => readRequest fuel { r with assignments := found :: r.assignments } rest
      | none => refuse ("improper assignment: -v " ++ value)
    | '-' :: 'W' :: inside =>
      let (value, rest) ← valueOf 'W' inside
      namedOption value
      readRequest fuel r rest
    | '-' :: _ :: _ => refuse ("not an option: " ++ a)
    | _ => return (r, a :: rest)

/-- The text of the rules, the file that it is in, and the arguments that are left. -/
def rulesText (r : Request) (rest : List String) :
    Act (List Char × Option String × List String) := do
  match r.paths.reverse, rest with
  | [], [] =>
    complainRaw usage
    quit 0
  | [], text :: rest => return (text.toList, none, rest)
  | path :: paths, rest =>
    let mut texts := #[]
    for p in path :: paths do
      match ← readOperand p with
      | .ok text => texts := texts.push text
      | .error f => refuse ("cannot open \"" ++ p ++ "\" (" ++ f.text ++ ")")
    return (texts.toList.flatten, some path, rest)

/-- Complain about the faults of rules, and end. -/
def refuseRules (path : Option String) (faults : List PlacedFault) : Act α := do
  let name := Files.Tree.lastSegment (← read).name
  let front := name ++ ": " ++ match path with
    | some p => p ++ ": "
    | none => ""
  for (line, f) in faults do
    let place := match f with
      | .unexpected _ => toString line
      | _ => "line " ++ toString line
    complainRaw (front ++ place ++ ": " ++ f.text ++ "\n")
  quit 2

/-- The state that rules begin with. -/
def firstState (environment : List (String × String)) (arguments : List String) : RecordState :=
  let text := fun (name s : String) => (name, Cell.value (.text s))
  let number := fun (name : String) (n : Int) => (name, Cell.value (.ofInt n))
  let shared :=
    [text "FS" " ", text "OFS" " ", text "ORS" "\n", text "RS" "\n", text "SUBSEP" "\x1c",
      text "CONVFMT" "%.6g", text "OFMT" "%.6g", text "FILENAME" "", number "NR" 0,
      number "FNR" 0, number "RSTART" 0, number "RLENGTH" (-1),
      number "ARGC" arguments.length, ("ENVIRON", .table 0), ("ARGV", .table 1)]
  let names := environment.foldl (fun (t : Table) (name, value) =>
    t.put ⟨name, false⟩ (.input value)) {}
  let operands := (arguments.zipIdx 0).foldl (fun (t : Table) (a, i) =>
    t.put ⟨toString i, true⟩ (.input a)) {}
  { shared := .ofList shared, tables := .ofList [(0, names), (1, operands)], nextTable := 2 }

/-- Carry out rules for the records of files. -/
def awk (run : Runner) : Program := do
  let task ← read
  let given ← arguments
  let (request, rest) ← readRequest (given.length + 1) {} given
  let (text, path, operands) ← rulesText request rest
  match readRules text with
  | .error faults => refuseRules path faults
  | .ok rules =>
    let before : Handling Unit := do
      match request.separator with
      | some s => Handling.setPlain "FS" (.text (plainText s))
      | none => pure ()
      for (name, value) in request.assignments.reverse do
        Handling.setShared name (.input value)
    let h : Rules := ⟨rules, run⟩
    let state := firstState task.environment ("awk" :: operands)
    let (result, _) ← (h.perform before).run.run state
    match result with
    | .ok code => return code
    | .error _ => return 2

/-- The programs of this module by their names. -/
def handling : List (String × (Runner → Program)) := [("awk", awk), ("mawk", awk)]

end ScriptedShell.Local.Records
