/-
# Editing lines

A program that reads lines one after the other, lets the commands of a script change each one, and
prints what has become of it.  A second text is held beside the line, and what is to come after the
line waits until the next one is read.
-/
import ScriptedShell.Local.Program.EditScript
import ScriptedShell.Local.Program.Permission
import ScriptedShell.Local.Program.Starting
import ScriptedShell.Regex.Search

namespace ScriptedShell.Local.Program

open Act Files Text

/-! ## The state -/

/-- What comes after the line. -/
inductive Waiting where
  | text (text : List Char)
  | file (path : String)

/-- Where the lines of a command with two addresses have come to. -/
inductive RangeState where
  | before
  /-- Inside, up to a line if that is known. -/
  | inside (stop : Option Nat)
  | over
  deriving Repr, DecidableEq

/-- How lines are edited. -/
structure Edits where
  script : EditScript
  isSilent : Bool := false
  /-- Whether each file has lines of its own. -/
  isSeparate : Bool := false
  /-- Whether files take the place of the output; the name of what they were before depends on the
  text. -/
  inPlace : Option String := none
  feed : Char := '\n'
  width : Nat := 70

/-- How far the editing has come. -/
structure EditState where
  line : List Char := []
  /-- Whether the line has its line feed. -/
  isEnded : Bool := true
  held : List Char := []
  isHeldEnded : Bool := true
  number : Nat := 0
  /-- The file that is read, with the lines that are left. -/
  path : String := "-"
  left : List (List Char × Bool) := []
  isOpen : Bool := false
  files : List String := []
  waiting : List Waiting := []
  hasReplaced : Bool := false
  ranges : List (Nat × RangeState) := []
  lastPattern : Option LinePattern := none
  /-- The places that have been printed to and lack a line feed at their end. -/
  unended : List (Option String) := []
  /-- What is to be in the place of the file that is read. -/
  edited : List String := []
  /-- The lines that are left of other files. -/
  others : List (String × List (List Char × Bool)) := []
  status : Nat := 0

/-- Editing. -/
abbrev Editing := StateT EditState Act

/-- What a command leads to. -/
inductive EditStep where
  | goOn
  | jump (n : Nat)
  /-- The line is done with, and may be printed. -/
  | finish
  /-- The line is done with, and is not printed. -/
  | drop
  /-- Begin again with the same line. -/
  | again
  | quit (code : Nat) (prints : Bool)

/-- A letter in another case. -/
def LetterCase.change (case : LetterCase) (c : Char) : Char :=
  match case with
  | .kept => c
  | .upper => c.toUpper
  | .lower => c.toLower

namespace Edits

/-! ## Printing -/

/-- Write a text to the output or to a file. -/
def emit (e : Edits) (goal : Option String) (text : List Char) : Editing Unit := do
  match goal with
  | none =>
    if e.inPlace.isSome && (← get).isOpen then
      modify fun s => { s with edited := String.ofList text :: s.edited }
    else printChars text
  | some "/dev/stdout" => printChars text
  | some "/dev/stderr" => complainRaw (String.ofList text)
  | some path =>
    let old ← readPath path
    let _ ← writePath path (old.toOption.getD [] ++ text)

/-- Write the line feed that a place lacks. -/
def close (e : Edits) (goal : Option String) : Editing Unit := do
  if (← get).unended.elem goal then
    e.emit goal [e.feed]
    modify fun s => { s with unended := s.unended.filter (· != goal) }

/-- Write a text after all others. -/
def put (e : Edits) (goal : Option String) (text : List Char) : Editing Unit := do
  e.close goal
  e.emit goal text

/-- Write a line, which may lack its line feed. -/
def putLine (e : Edits) (goal : Option String) (line : List Char) (isEnded : Bool) :
    Editing Unit := do
  e.close goal
  e.emit goal (if isEnded then line ++ [e.feed] else line)
  if !isEnded then modify fun s => { s with unended := goal :: s.unended }

/-- Write what has been waiting. -/
def flush (e : Edits) : Editing Unit := do
  let waiting := (← get).waiting
  modify fun s => { s with waiting := [] }
  for w in waiting do
    match w with
    | .text text => e.put none text
    | .file path =>
      let text ← readPath path
      e.put none (text.toOption.getD [])

/-! ## Reading lines -/

/-- The lines of a text, each with whether it has its line feed. -/
def linesOf (e : Edits) (text : List Char) : List (List Char × Bool) :=
  match (piecesOf (· = e.feed) text).reverse with
  | [] => []
  | [] :: lines => (lines.map (·, true)).reverse
  | last :: lines => ((last, false) :: lines.map (·, true)).reverse

/-- The name for what a file was before. -/
def formerName (path suffix : String) : String :=
  if suffix.toList.elem '*' then
    let name := Tree.lastSegment path
    let front := String.ofList (path.toList.take (path.length - name.length))
    let named := suffix.toList.flatMap fun c => if c = '*' then name.toList else [c]
    if named.elem '/' then String.ofList named else front ++ String.ofList named
  else path ++ suffix

/-- Put the edited lines in the place of the file that has been read. -/
def settle (e : Edits) : Editing Unit := do
  let s ← get
  match e.inPlace, s.isOpen with
  | some suffix, true =>
    let old ← readPath s.path
    if !suffix.isEmpty then
      let _ ← writePath (formerName s.path suffix) (old.toOption.getD [])
    let _ ← writePath s.path (s.edited.reverse.map String.toList).flatten
  | _, _ => pure ()
  set { s with isOpen := false, edited := [], left := [] }

/-- Open the next file that can be read, as long as there is one. -/
def openNext (e : Edits) : (fuel : Nat) → Editing Bool
  | 0 => return false
  | fuel + 1 => do
    match (← get).files with
    | [] => return false
    | path :: files =>
      e.settle
      modify fun s => { s with files }
      let found ← node path
      match e.inPlace, found with
      | some _, .ok (_, .directory) | some _, .ok (_, .device _) =>
        complain ("couldn't edit " ++ path ++ ": not a regular file")
        quit 4
      | _, _ => pure ()
      match ← if e.inPlace.isSome then readPath path else readOperand path with
      | .error fault =>
        if fault = .file .isDirectory then
          complain ("read error on " ++ path ++ ": " ++ fault.text)
          quit 4
        complain ("can't read " ++ path ++ ": " ++ fault.text)
        modify fun s => { s with status := 2 }
        openNext e fuel
      | .ok text =>
        modify fun s =>
          { s with
            path
            left := e.linesOf text
            isOpen := true
            number := if e.isSeparate then 0 else s.number
            unended := if e.inPlace.isSome then s.unended.filter (·.isSome) else s.unended }
        return true

/-- Whether there is another line, where files that come next are opened. -/
def hasMore (e : Edits) (crosses : Bool) : (fuel : Nat) → Editing Bool
  | 0 => return false
  | fuel + 1 => do
    if !(← get).left.isEmpty then return true
    if !crosses then return false
    if ← e.openNext ((← get).files.length + 1) then hasMore e crosses fuel else return false

/-- Whether the line is the last one. -/
def isLast (e : Edits) : Editing Bool := do
  let more ← e.hasMore (!e.isSeparate) ((← get).files.length + 2)
  return !more

/-- Read the next line, in the place of the old one or after it; whether there is one. -/
def read (e : Edits) (joins : Bool) : Editing Bool := do
  e.flush
  if !(← e.hasMore true ((← get).files.length + 2)) then return false
  modify fun s =>
    match s.left with
    | (line, isEnded) :: left =>
      { s with
        line := if joins then s.line ++ e.feed :: line else line
        isEnded
        left
        number := s.number + 1
        hasReplaced := false }
    | [] => s
  return true

/-! ## Addresses -/

/-- The pattern that is meant, which is the last one from now on. -/
def meant (pattern : Option LinePattern) : Editing LinePattern := do
  match pattern.or (← get).lastPattern with
  | some p =>
    modify fun s => { s with lastPattern := some p }
    return p
  | none =>
    complain ("-e expression #1, char 0: " ++ EditFault.noPrevious.text)
    quit 1

/-- The line as a text to be searched. -/
def subject (p : LinePattern) (line : List Char) : Regex.Subject :=
  { text := line.toArray, hasLines := p.hasLines, ignoresCase := p.ignoresCase }

/-- Whether an address is one of the line. -/
def isAt (e : Edits) (a : LineAddress) : Editing Bool := do
  match a with
  | .line n => return (← get).number = n
  | .step first step =>
    let n := (← get).number
    return first ≤ n && (n - first) % step = 0
  | .last => e.isLast
  | .like pattern =>
    let p ← meant pattern
    return p.regex.isIn (subject p (← get).line)
  | .after _ | .multiple _ => return false

/-- Where the lines of a command have come to. -/
def rangeOf (n : Nat) (c : EditCommand) (s : EditState) : RangeState :=
  match s.ranges.lookup n with
  | some r => r
  | none => match c.first with
    | some (.line 0) => .inside none
    | _ => .before

/-- Note where the lines of a command have come to. -/
def setRange (n : Nat) (r : RangeState) : Editing Unit :=
  modify fun s => { s with ranges := (n, r) :: s.ranges.filter (·.1 != n) }

/-- Whether the line is one of those from a first one to a second one. -/
def isBetween (e : Edits) (n : Nat) (c : EditCommand) (first second : LineAddress) :
    Editing Bool := do
  let s ← get
  match rangeOf n c s with
  | .inside (some stop) =>
    if stop ≤ s.number then setRange n .over
    return s.number ≤ stop
  | .inside none =>
    match second with
    | .line stop =>
      if stop ≤ s.number then setRange n .over
      return s.number ≤ stop
    | second =>
      let isEnd ← e.isAt second
      if isEnd then setRange n .over
      return true
  | state =>
    let begins ← match first with
      | .line m => pure (state != .over && m ≤ s.number)
      | first => e.isAt first
    if !begins then return false
    let stop : Option Nat := match second with
      | .line m => some m
      | .after m => some (s.number + m)
      | .multiple m => some (if m = 0 then s.number else (s.number / m + 1) * m)
      | _ => none
    match stop with
    | some m =>
      if m ≤ s.number then
        setRange n .over
        match first with
        | .line k => return k = s.number || s.number ≤ m
        | _ => return true
      setRange n (.inside (some m))
      return true
    | none =>
      setRange n (.inside none)
      return true

/-- Whether a command is for the line. -/
def isFor (e : Edits) (n : Nat) (c : EditCommand) : Editing Bool := do
  let isMeant ← match c.first, c.second with
    | none, _ => pure true
    | some a, none => e.isAt a
    | some a, some b => e.isBetween n c a b
  return isMeant != c.isNegated

/-! ## Substitution -/

/-- What is put in for a stretch, where `all` and `next` say how letters are changed. -/
def putIn (subject : Regex.Subject) (found : Regex.Found) : (all next : LetterCase) →
    List Replacement → List Char
  | _, _, [] => []
  | _, _, .all case :: rest => putIn subject found case .kept rest
  | all, _, .next case :: rest => putIn subject found all case rest
  | all, next, part :: rest =>
    let text := match part with
      | .group n => found.text subject n
      | .text text => text
      | _ => []
    match text with
    | [] => putIn subject found all next rest
    | c :: cs =>
      let first := if next = .kept then all.change c else next.change c
      first :: cs.map all.change ++ putIn subject found all .kept rest

/-- The text from a place on with stretches replaced, and whether any has been.  `count` stretches
have been found before, and the last one ended at `before`. -/
def replaceFrom (s : Substitution) (r : Regex) (subject : Regex.Subject) : (fuel : Nat) →
    (place count : Nat) → (before : Option Nat) → List Char × Bool
  | 0, place, _, _ => (subject.between place subject.text.size, false)
  | fuel + 1, place, count, before =>
    let size := subject.text.size
    match if size < place then none else r.search? subject place with
    | none => (subject.between place size, false)
    | some f =>
      let front := subject.between place f.start
      if f.start = f.stop && before = some f.start then
        let (rest, isReplaced) := replaceFrom s r subject fuel (f.stop + 1) count none
        (front ++ subject.between f.start (f.stop + 1) ++ rest, isReplaced)
      else
        let isMeant := s.number ≤ count + 1
        let new := if isMeant then putIn subject f .kept .kept s.parts
          else subject.between f.start f.stop
        if isMeant && !s.isGlobal then (front ++ new ++ subject.between f.stop size, true)
        else
          let (next, skipped) := if f.start = f.stop then
              (f.stop + 1, subject.between f.stop (f.stop + 1))
            else (f.stop, [])
          let (rest, isReplaced) := replaceFrom s r subject fuel next (count + 1) (some f.stop)
          (front ++ new ++ skipped ++ rest, isMeant || isReplaced)

/-- Run a text as a command, and give what it prints. -/
def output (run : Runner) (command : List Char) : Editing (List Char) := do
  let (input, output, system) := (← getThe System).newPipe
  set system
  let _ ← start run (fun t => { t with streams := t.streams.set 1 output }) "sh"
    ["-c", String.ofList command]
  return (← getThe System).pipeText input

/-- A text without the line feed at its end. -/
def withoutFeed (e : Edits) (text : List Char) : List Char :=
  if text.getLast? = some e.feed then text.dropLast else text

/-- Replace stretches of the line. -/
def substitute (e : Edits) (run : Runner) (s : Substitution) : Editing Unit := do
  let p ← meant s.pattern
  let subject := subject p (← get).line
  let (line, isReplaced) := replaceFrom s p.regex subject (subject.text.size + 2) 0 0 none
  if !isReplaced then return
  modify fun s => { s with line, hasReplaced := true }
  if s.runs then
    if s.prints && s.printsFirst then e.putLine none line (← get).isEnded
    let text ← output run line
    modify fun s => { s with line := e.withoutFeed text }
  if s.prints && !(s.runs && s.printsFirst) then
    e.putLine none (← get).line (← get).isEnded
  match s.goal with
  | some path => e.putLine (some path) (← get).line (← get).isEnded
  | none => pure ()

/-! ## Commands -/

/-- Have something come after the line. -/
def wait (w : Waiting) : Editing Unit := modify fun s => { s with waiting := s.waiting ++ [w] }

/-- A character as it is shown in a list. -/
def shownChar (c : Char) : List Char :=
  if c = '\\' then ['\\', '\\']
  else match Named.letterOf? c with
    | some l => ['\\', l]
    | none => if Named.isShown c then [c] else '\\' :: Named.octal c.toNat

/-- A line as it is shown in a list, in rows of a width. -/
def listed (width : Nat) (line : List Char) : List Char :=
  let (text, _) := line.foldl (fun ((text, column) : List Char × Nat) c =>
    let shown := shownChar c
    if 0 < width && width - 1 < column + shown.length then
      (shown.reverse ++ '\n' :: '\\' :: text, shown.length)
    else (shown.reverse ++ text, column + shown.length)) ([], 0)
  text.reverse ++ ['$', '\n']

/-- The first line of a text of lines. -/
def firstLine (e : Edits) (line : List Char) : List Char := line.takeWhile (· != e.feed)

/-- The step to a label; the empty one is the end. -/
def jumpTo (e : Edits) (label : String) : EditStep :=
  if label.isEmpty then .finish
  else match e.script.labels.lookup label with
    | some n => .jump n
    | none => .finish

/-- Do what a command does to the line. -/
def perform (e : Edits) (run : Runner) (n : Nat) (c : EditCommand) : Editing EditStep := do
  let s ← get
  match c.action with
  | .openBlock _ | .closeBlock | .label => return .goOn
  | .print =>
    e.putLine none s.line s.isEnded
    return .goOn
  | .printFirst =>
    let first := e.firstLine s.line
    e.putLine none first (first.length < s.line.length || s.isEnded)
    return .goOn
  | .delete => return .drop
  | .deleteFirst =>
    let first := e.firstLine s.line
    if first.length = s.line.length then return .drop
    set { s with line := s.line.drop (first.length + 1) }
    return .again
  | .next =>
    if ← e.isLast then return .finish
    if !e.isSilent then e.putLine none s.line s.isEnded
    let _ ← e.read false
    return .goOn
  | .joinNext =>
    if ← e.isLast then return .finish
    let _ ← e.read true
    return .goOn
  | .take =>
    set { s with line := s.held, isEnded := s.isHeldEnded }
    return .goOn
  | .takeMore =>
    set { s with line := s.line ++ e.feed :: s.held, isEnded := s.isHeldEnded }
    return .goOn
  | .hold =>
    set { s with held := s.line, isHeldEnded := s.isEnded }
    return .goOn
  | .holdMore =>
    set { s with held := s.held ++ e.feed :: s.line, isHeldEnded := s.isEnded }
    return .goOn
  | .exchange =>
    set { s with
      line := s.held, isEnded := s.isHeldEnded, held := s.line, isHeldEnded := s.isEnded }
    return .goOn
  | .number =>
    e.put none (toString s.number ++ "\n").toList
    return .goOn
  | .list width =>
    e.put none (listed (width.getD e.width) s.line)
    return .goOn
  | .name =>
    e.put none (s.path ++ "\n").toList
    return .goOn
  | .clear =>
    set { s with line := [] }
    return .goOn
  | .quit code => return .quit code true
  | .quitSilently code => return .quit code false
  | .append text =>
    wait (.text text)
    return .goOn
  | .insert text =>
    e.put none text
    return .goOn
  | .change text =>
    match rangeOf n c s with
    | .inside _ => if c.second.isNone || c.isNegated then e.put none text
    | _ => e.put none text
    return .drop
  | .appendFile path =>
    wait (.file path)
    return .goOn
  | .appendLine path =>
    let lines ← match s.others.lookup path with
      | some lines => pure lines
      | none =>
        let text ← readPath path
        pure (e.linesOf (text.toOption.getD []))
    let others := fun (left : List (List Char × Bool)) =>
      (path, left) :: s.others.filter (·.1 != path)
    match lines with
    | (line, isEnded) :: left =>
      let text := if isEnded then line ++ [e.feed] else line
      set { s with others := others left }
      wait (.text text)
    | [] => set { s with others := others [] }
    return .goOn
  | .write path =>
    e.putLine (some path) s.line s.isEnded
    return .goOn
  | .writeFirst path =>
    let first := e.firstLine s.line
    e.putLine (some path) first (first.length < s.line.length || s.isEnded)
    return .goOn
  | .run command =>
    let text ← output run (if command.isEmpty then s.line else command)
    if command.isEmpty then modify fun s => { s with line := e.withoutFeed text, isEnded := true }
    else if !text.isEmpty then e.put none text
    return .goOn
  | .jump label => return e.jumpTo label
  | .jumpIfReplaced label =>
    set { s with hasReplaced := false }
    return if s.hasReplaced then e.jumpTo label else .goOn
  | .jumpUnlessReplaced label =>
    set { s with hasReplaced := false }
    return if s.hasReplaced then .goOn else e.jumpTo label
  | .substitute sub =>
    e.substitute run sub
    return .goOn
  | .translate pairs =>
    set { s with line := s.line.map fun c => (pairs.lookup c).getD c }
    return .goOn

/-- What a command leads to, if it is for the line. -/
def step (e : Edits) (run : Runner) (n : Nat) (c : EditCommand) : Editing EditStep := do
  if ← e.isFor n c then e.perform run n c
  else match c.action with
    | .openBlock stop => return .jump stop
    | _ => return .goOn

/-- Run the commands from one of them on; the number bounds how many are run at all. -/
def runFrom (e : Edits) (run : Runner) : (fuel n : Nat) → Editing Nat
  | 0, _ => return 124
  | fuel + 1, n => do
    let result ← match e.script.commands[n]? with
      | some c => e.step run n c
      | none => pure .finish
    match result with
    | .goOn => runFrom e run fuel (n + 1)
    | .jump m => runFrom e run fuel m
    | .again => runFrom e run fuel 0
    | .finish =>
      if !e.isSilent then e.putLine none (← get).line (← get).isEnded
      if ← e.read false then runFrom e run fuel 0 else return (← get).status
    | .drop => if ← e.read false then runFrom e run fuel 0 else return (← get).status
    | .quit code prints =>
      if prints && !e.isSilent then e.putLine none (← get).line (← get).isEnded
      if prints then
        e.close none
        e.flush
      return code

/-- The most commands that are run. -/
def maxSteps : Nat := 2000000

/-- Edit all lines. -/
def runAll (e : Edits) (run : Runner) : Editing Nat := do
  let status ← if ← e.read false then e.runFrom run maxSteps 0 else pure (← get).status
  e.settle
  return status

end Edits

/-! ## The program -/

/-- How the program is used. -/
def editUsage : String := "Usage: sed [OPTION]... \x7bscript-only-if-no-other-script\x7d [input-file]...

  -n, --quiet, --silent
                 suppress automatic printing of pattern space
      --debug
                 annotate program execution
  -e script, --expression=script
                 add the script to the commands to be executed
  -f script-file, --file=script-file
                 add the contents of script-file to the commands to be executed
  --follow-symlinks
                 follow symlinks when processing in place
  -i[SUFFIX], --in-place[=SUFFIX]
                 edit files in place (makes backup if SUFFIX supplied)
  -l N, --line-length=N
                 specify the desired line-wrap length for the `l' command
  --posix
                 disable all GNU extensions.
  -E, -r, --regexp-extended
                 use extended regular expressions in the script
                 (for portability use POSIX -E).
  -s, --separate
                 consider files as separate rather than as a single,
                 continuous long stream.
      --sandbox
                 operate in sandbox mode (disable e/r/w commands).
  -u, --unbuffered
                 load minimal amounts of data from the input files and flush
                 the output buffers more often
  -z, --null-data
                 separate lines by NUL characters
      --help     display this help and exit
      --version  output version information and exit

If no -e, --expression, -f, or --file option is given, then the first
non-option argument is taken as the sed script to interpret.  All
remaining arguments are names of input files; if no input files are
specified, then the standard input is read.

"

/-- The options of the program. -/
def editOptions : List Known :=
  flags [('n', "quiet"), ('n', "silent"), ('E', "regexp-extended"), ('r', "regexp-extended"),
    ('s', "separate"), ('u', "unbuffered"), ('z', "null-data"), ('b', "binary")] ++
  valued [('e', "expression"), ('f', "file"), ('l', "line-length")] ++
  [⟨'i', "in-place", .attached, true⟩] ++
  longFlags [('1', "debug"), ('2', "posix"), ('3', "sandbox"), ('4', "follow-symlinks"),
    ('5', "help")]

/-- A piece of a script: its text, and the file that it comes from. -/
structure EditPiece where
  text : List Char
  path : Option String := none

/-- The pieces of the script, and the files. -/
def editPieces (o : Chosen) (operands : List String) : Act (List EditPiece × List String) := do
  let given := o.filter fun p => p.1 = 'e' || p.1 = 'f'
  if given.isEmpty then
    match operands with
    | script :: files => return ([⟨script.toList, none⟩], files)
    | [] =>
      complainRaw editUsage
      quit 1
  let mut pieces := #[]
  for (key, value) in given do
    if key = 'e' then pieces := pieces.push ⟨value.toList, none⟩
    else match ← readOperand value with
      | .ok text =>
        let text := if text.getLast? = some '\n' then text.dropLast else text
        pieces := pieces.push ⟨text, some value⟩
      | .error fault =>
        complain ("couldn't open file " ++ value ++ ": " ++ fault.text)
        quit 4
  return (pieces.toList, operands)

/-- Where a place of the whole script is, in words. -/
def editPlace (isAtStart : Bool) (place : Nat) : (start count : Nat) → List EditPiece → String
  | _, count, [] => "-e expression #" ++ toString count ++ ", char 0"
  | start, count, piece :: rest =>
    let count := if piece.path.isNone then count + 1 else count
    let next := start + piece.text.length + 1
    if next < place && !rest.isEmpty then editPlace isAtStart place next count rest
    else
      let inside := min (place - start) piece.text.length
      match piece.path with
      | some path =>
        let line := ((piece.text.take inside).filter (· = '\n')).length + 1
        "file " ++ path ++ " line " ++ toString line
      | none =>
        "-e expression #" ++ toString count ++ ", char " ++
          toString (if isAtStart then 0 else inside)

/-- The label that a command jumps to. -/
def EditAction.goal? : EditAction → Option String
  | .jump goal | .jumpIfReplaced goal | .jumpUnlessReplaced goal =>
    if goal.isEmpty then none else some goal
  | _ => none

/-- Edit lines. -/
def sed (run : Runner) : Program := do
  let given ← arguments
  let (o, operands) ← match readOptions editOptions false (given.length + 1) given with
    | .ok read => pure read
    | .error fault =>
      complain fault.text
      complainRaw editUsage
      quit 1
  if o.has '5' then
    print editUsage
    quit 0
  let (pieces, files) ← editPieces o operands
  let text := (pieces.map (·.text)).intersperse ['\n'] |>.flatten
  let script ← match readEdits (o.has 'E' || o.has 'r') text with
    | .ok script => pure script
    | .error (.regex .classOutside, _) =>
      complain RegexFault.classOutside.text
      quit 4
    | .error (fault, place) =>
      complain (editPlace (fault == .unmatchedOpening) place 0 0 pieces ++ ": " ++ fault.text)
      quit 1
  for c in script.commands do
    match c.action.goal? with
    | some label =>
      if (script.labels.lookup label).isNone then
        complain ("can't find label for jump to `" ++ label ++ "'")
        quit 4
    | none => pure ()
  for path in script.goals do
    if path != "/dev/stdout" && path != "/dev/stderr" then
      match ← writePath path [] with
      | none => pure ()
      | some fault =>
        complain ("couldn't open file " ++ path ++ ": " ++ fault.text)
        quit 4
  let isMarked := (pieces.head?.map (·.text)).any (['#', 'n'].isPrefixOf ·)
  let e : Edits :=
    { script
      isSilent := o.has 'n' || isMarked
      isSeparate := o.has 's' || o.has 'i'
      inPlace := o.last? 'i'
      feed := if o.has 'z' then '\x00' else '\n'
      width := ((o.last? 'l').bind natural?).getD 70 }
  let (status, _) ← (e.runAll run).run { files := if files.isEmpty then ["-"] else files }
  return status

/-- The programs of this module by their names. -/
def editing : List (String × (Runner → Program)) := [("sed", sed)]

end ScriptedShell.Local.Program
