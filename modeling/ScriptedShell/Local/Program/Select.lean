/-
# Selecting lines

A program that prints the lines of files that patterns are found in.
-/
import ScriptedShell.Local.Program.Columns
import ScriptedShell.Local.Program.Permission
import ScriptedShell.Local.Script.Pattern
import ScriptedShell.Regex.Reader
import ScriptedShell.Regex.Search

namespace ScriptedShell.Local.Program

open Act Files Text

/-! ## Patterns -/

/-- What lines are compared with. -/
structure Selector where
  patterns : List Regex
  ignoresCase : Bool := false
  /-- Whether a pattern has to stand for words. -/
  isWords : Bool := false
  /-- Whether a pattern has to stand for whole lines. -/
  isWhole : Bool := false
  isInverted : Bool := false

namespace Selector

/-- The longest stretch from a place on that a pattern stands for under the conditions. -/
def at? (s : Selector) (subject : Regex.Subject) (place : Nat) : Option Regex.Found :=
  let isFit := fun (p : Regex.Spot) =>
    let isWhole := place = 0 && p.place = subject.text.size
    let isWord := !(0 < place && subject.isAt isWordChar (place - 1)) &&
      !subject.isAt isWordChar p.place
    if s.isWhole then isWhole else !s.isWords || isWord
  let spots := s.patterns.flatMap fun r =>
    (Regex.ends subject r.refers r ⟨place, []⟩).filter isFit
  spots.foldl (fun (best : Option Regex.Found) p =>
    match best with
    | some b => if b.stop < p.place then some ⟨place, p.place, p.groups⟩ else some b
    | none => some ⟨place, p.place, p.groups⟩) none

/-- The first stretch from one of some places in a row on. -/
def from? (s : Selector) (subject : Regex.Subject) : (count place : Nat) → Option Regex.Found
  | 0, _ => none
  | count + 1, place => (s.at? subject place).or (s.from? subject count (place + 1))

/-- A line as a text to be searched. -/
def subject (s : Selector) (line : List Char) : Regex.Subject :=
  { text := line.toArray, ignoresCase := s.ignoresCase }

/-- Whether a line is selected. -/
def selects (s : Selector) (line : List Char) : Bool :=
  let subject := s.subject line
  (s.from? subject (if s.isWhole then 1 else line.length + 1) 0).isSome != s.isInverted

/-- All stretches of a line that are not empty, from a place on. -/
def stretches (s : Selector) (subject : Regex.Subject) : (fuel place : Nat) → List Regex.Found
  | 0, _ => []
  | fuel + 1, place =>
    match s.from? subject (subject.text.size + 1 - place) place with
    | none => []
    | some f =>
      if f.start = f.stop then s.stretches subject fuel (f.stop + 1)
      else f :: s.stretches subject fuel f.stop

end Selector

/-! ## How lines are shown -/

/-- How selected lines are shown. -/
structure Showing where
  hasNames : Bool := false
  hasNumbers : Bool := false
  hasOffsets : Bool := false
  onlyStretches : Bool := false
  isAligned : Bool := false
  /-- Whether parts of the output are shown in colours. -/
  isColoured : Bool := false
  nameEnd : Option Char := none
  lineEnd : Char := '\n'

namespace Showing

/-- A text between the signs that begin and end a colour. -/
def coloured (s : Showing) (colour : String) (text : List Char) : List Char :=
  if s.isColoured then
    ("\x1b[" ++ colour ++ "m\x1b[K").toList ++ text ++ "\x1b[m\x1b[K".toList
  else text

/-- The name of a file in front of a line. -/
def name (s : Showing) (path : String) : List Char := s.coloured "35" path.toList

/-- What stands in front of a line with a number that begins after a number of bytes. -/
def front (s : Showing) (path : String) (mark : Char) (number offset : Nat) : List Char :=
  let sign := s.coloured "36" [mark]
  let count := fun (n : Nat) =>
    let text := toString n
    (if s.isAligned then padLeft 2 text else text).toList
  (if s.hasNames then s.name path ++ (match s.nameEnd with
    | some c => [c]
    | none => sign) else []) ++
  (if s.hasNumbers then s.coloured "32" (count number) ++ sign else []) ++
  (if s.hasOffsets then s.coloured "32" (count offset) ++ sign else []) ++
  (if s.isAligned && (s.hasNames || s.hasNumbers || s.hasOffsets) then ['\t'] else [])

/-- A line with its stretches in colour. -/
def markedLine (s : Showing) (line : List Char) (found : List Regex.Found) : List Char :=
  if !s.isColoured then line
  else
    let text := line.toArray
    let (parts, last) := found.foldl (fun (parts, place) f =>
      (parts ++ (text.extract place f.start).toList ++
        s.coloured "01;31" (text.extract f.start f.stop).toList, f.stop)) ([], 0)
    parts ++ line.drop last

end Showing

/-! ## Files -/

/-- What is asked of files. -/
structure Inquiry where
  selector : Selector
  showing : Showing := {}
  before : Nat := 0
  after : Nat := 0
  /-- The line between lines that do not follow each other. -/
  separator : Option String := some "--"
  /-- The most lines that are selected in a file. -/
  most : Option Nat := none
  counts : Bool := false
  /-- Whether names of files are listed: of those with selected lines, or of the others. -/
  lists : Option Bool := none
  isQuiet : Bool := false
  /-- Whether files that are no text are shown too. -/
  showsBinary : Bool := false
  skipsBinary : Bool := false

/-- A line of a file with its number and the number of bytes before it. -/
structure Numbered where
  number : Nat
  offset : Nat
  line : List Char

/-- Lines with their numbers. -/
def numbered (lines : List (List Char)) : List Numbered :=
  (lines.foldl (fun (done, number, offset) line =>
    (⟨number, offset, line⟩ :: done, number + 1, offset + line.length + 1)) ([], 1, 0)).1.reverse

/-- What has been selected of a file: the printed text, and the number of the lines. -/
structure Selected where
  text : List (List Char) := []
  count : Nat := 0
  /-- The number of the last line that has been printed. -/
  printed : Nat := 0
  /-- How many lines after the last selected one are still to be printed. -/
  owed : Nat := 0
  /-- The lines before this one that have not been printed, the last one first. -/
  waiting : List Numbered := []
  isDone : Bool := false
  /-- Whether anything has been printed before, also of other files. -/
  isContinued : Bool := false

namespace Inquiry

/-- Whether nothing of the lines is printed. -/
def isSilent (s : Inquiry) : Bool := s.isQuiet || s.counts || s.lists.isSome

/-- Whether lines around the selected ones are printed. -/
def hasContext (s : Inquiry) : Bool :=
  (0 < s.before || 0 < s.after) && !s.showing.onlyStretches

/-- A line as it is printed. -/
def shownLine (s : Inquiry) (path : String) (mark : Char) (n : Numbered) : List Char :=
  let found := if s.showing.isColoured && mark = ':' && !s.selector.isInverted then
      s.selector.stretches (s.selector.subject n.line) (n.line.length + 2) 0
    else []
  s.showing.front path mark n.number n.offset ++ s.showing.markedLine n.line found ++
    [s.showing.lineEnd]

/-- The stretches of a line as they are printed. -/
def shownStretches (s : Inquiry) (path : String) (n : Numbered) : List (List Char) :=
  if s.selector.isInverted then []
  else
    let subject := s.selector.subject n.line
    (s.selector.stretches subject (n.line.length + 2) 0).map fun f =>
      s.showing.front path ':' n.number (n.offset + f.start) ++
        s.showing.coloured "01;31" (subject.between f.start f.stop) ++ [s.showing.lineEnd]

/-- What is printed between lines that do not follow each other. -/
def gap (s : Inquiry) (found : Selected) (first : Nat) : List (List Char) :=
  match s.separator with
  | some text =>
    if (0 < found.printed && found.printed + 1 < first) ||
        (found.printed = 0 && found.isContinued) then
      [s.showing.coloured "36" text.toList ++ ['\n']]
    else []
  | none => []

/-- Go on with a line. -/
def step (s : Inquiry) (path : String) (hasGaps : Bool) (found : Selected) (n : Numbered) :
    Selected :=
  if found.isDone && found.owed = 0 then found
  else if !found.isDone && s.selector.selects n.line then
    let count := found.count + 1
    let isDone := s.most = some count
    if s.isSilent then { found with count, isDone := isDone || !s.counts }
    else if s.showing.onlyStretches then
      { found with count, isDone, text := (s.shownStretches path n).reverse ++ found.text }
    else
      let waiting := found.waiting.reverse
      let first := (waiting.head?.map (·.number)).getD n.number
      let gap := if hasGaps then s.gap found first else []
      let text := gap ++ waiting.map (s.shownLine path '-') ++ [s.shownLine path ':' n]
      { found with
        count, isDone, text := text.reverse ++ found.text, printed := n.number
        owed := s.after, waiting := [] }
  else if 0 < found.owed then
    { found with
      text := s.shownLine path '-' n :: found.text, printed := n.number
      owed := found.owed - 1 }
  else { found with waiting := (n :: found.waiting).take s.before }

/-- What is selected of a text. -/
def select (s : Inquiry) (path : String) (hasGaps isContinued : Bool) (text : List Char) :
    Selected :=
  let pieces := piecesOf (· = s.showing.lineEnd) text
  let lines := if pieces.getLast? = some [] then pieces.dropLast else pieces
  if s.most = some 0 then { isContinued }
  else (numbered lines).foldl (s.step path hasGaps) { isContinued }

end Inquiry

/-! ## The program -/

/-- The letters of options that stand for long names alone. -/
def grepOptions : List Known :=
  flags [('G', "basic-regexp"), ('E', "extended-regexp"), ('F', "fixed-strings"),
    ('P', "perl-regexp")] ++
  valued [('A', "after-context"), ('B', "before-context"), ('C', "context")] ++
  [⟨'K', "color", .attached, false⟩, ⟨'K', "colour", .attached, false⟩] ++
  flags [('c', "count")] ++ valued [('d', "directories"), ('D', "devices")] ++
  [⟨'X', "exclude", .value, false⟩, ⟨'Q', "exclude-from", .value, false⟩,
    ⟨'N', "exclude-dir", .value, false⟩] ++
  valued [('f', "file")] ++
  flags [('h', "no-filename"), ('H', "with-filename"), ('i', "ignore-case"), ('y', "")] ++
  [⟨'j', "no-ignore-case", .nothing, false⟩, ⟨'I', "", .nothing, true⟩,
    ⟨'Y', "binary-files", .value, false⟩, ⟨'J', "include", .value, false⟩] ++
  flags [('T', "initial-tab"), ('v', "invert-match")] ++
  [⟨'k', "label", .value, false⟩, ⟨'u', "line-buffered", .nothing, false⟩] ++
  flags [('n', "line-number"), ('x', "line-regexp"), ('w', "word-regexp"),
    ('l', "files-with-matches"), ('L', "files-without-match"), ('a', "text"),
    ('b', "byte-offset"), ('o', "only-matching"), ('q', "quiet"), ('r', "recursive"),
    ('R', "dereference-recursive"), ('s', "no-messages"), ('z', "null-data"), ('Z', "null"),
    ('U', "binary")] ++
  [⟨'q', "silent", .nothing, false⟩, ⟨'O', "group-separator", .value, false⟩,
    ⟨'M', "no-group-separator", .nothing, false⟩] ++
  valued [('m', "max-count"), ('e', "regexp")] ++
  "0123456789".toList.map fun c => ⟨c, "", .nothing, true⟩

/-- End with a hint at how the program is used. -/
def grepUsage : Act α := do
  complainRaw "Usage: grep [OPTION]... PATTERNS [FILE]...\n"
  complainRaw "Try 'grep --help' for more information.\n"
  quit 2

/-- End with a complaint that concerns the whole run. -/
def fail (status : Nat) (text : String) : Act α := do
  complain text
  quit status

/-- A number of lines that an option gives. -/
def contextOf (o : Chosen) (key : Char) : Act (Option Nat) := do
  match o.last? key with
  | none => return none
  | some text =>
    match amount? text with
    | some n => return some n
    | none => fail 2 (text ++ ": invalid context length argument")

/-- The patterns that options and operands give, and the operands that are left. -/
def patternsOf (o : Chosen) (operands : List String) : Act (List (List Char) × List String) := do
  if !(o.has 'e' || o.has 'f') then
    match operands with
    | [] => grepUsage
    | p :: rest => return (piecesOf (· = '\n') p.toList, rest)
  let mut patterns := #[]
  for (key, text) in o do
    if key = 'e' then patterns := patterns ++ (piecesOf (· = '\n') text.toList).toArray
    if key = 'f' then
      match ← readOperand text with
      | .ok content => patterns := patterns ++ (rawLines content).1.toArray
      | .error fault => fail 2 (text ++ ": " ++ fault.text)
  return (patterns.toList, operands)

/-- The expression of a pattern. -/
def compiled (o : Chosen) (pattern : List Char) : Act Regex := do
  if o.has 'F' then return Regex.text pattern
  let grammar : Regex.Grammar :=
    { isExtended := o.has 'E' || o.has 'P', refusesOutside := true }
  match Regex.readNoting grammar pattern with
  | .ok (r, lonely) =>
    for c in lonely do
      let sign := if c = '\x7b' then "\x7b...\x7d" else String.singleton c
      complain ("warning: " ++ sign ++ " at start of expression")
    return r
  | .error fault => fail 2 fault.text

/-- Whether a name is like one of some patterns. -/
def isLike (patterns : List String) (name : String) : Bool :=
  patterns.any fun p =>
    Script.matchesAll (p.toList.map fun c => ⟨c, true⟩) name.toList

/-- The files below a directory, with their paths. -/
def filesBelow (o : Chosen) (t : Tree) : (fuel : Nat) → (path : String) → Place → List String
  | 0, _, _ => []
  | fuel + 1, path, place =>
    (t.namesIn place).flatMap fun name =>
      let inner := if path.isEmpty then toOctets name else path ++ "/" ++ toOctets name
      match t.at? (place ++ [name]) with
      | some .directory =>
        if isLike (o.all 'N') (toOctets name) then []
        else filesBelow o t fuel inner (place ++ [name])
      | some (.file _) | some (.program _) =>
        let isExcluded := isLike (o.all 'X') (toOctets name)
        let isIncluded := !o.has 'J' || isLike (o.all 'J') (toOctets name)
        if isIncluded && !isExcluded then [inner] else []
      | _ => []

/-- The paths to be searched for operands. -/
def searchedPaths (o : Chosen) (operands : List String) : Act (List String) := do
  let isDeep := o.has 'r' || o.has 'R' || o.last? 'd' = some "recurse"
  if !isDeep then return if operands.isEmpty then ["-"] else operands
  let task ← read
  let t ← tree
  if operands.isEmpty then return filesBelow o t maxDepth "" task.directory
  let mut paths := #[]
  for operand in operands do
    match ← node operand with
    | .ok (place, .directory) =>
      let path := if operand = "/" then "" else operand
      let path := if (path.toList.getLast? = some '/') then String.ofList path.toList.dropLast
        else path
      paths := paths ++ (filesBelow o t maxDepth path place).toArray
    | _ => paths := paths.push operand
  return paths.toList

/-- The end of the line of a list of names. -/
def listEnd (o : Chosen) : String := if o.has 'Z' then "\x00" else "\n"

/-- Print what is selected of a text under a name, and give the number of lines; `isContinued` says
whether lines have been printed before. -/
def printSelected (o : Chosen) (s : Inquiry) (hasGaps isContinued : Bool) (name : String)
    (text : List Char) : Act (Nat × Bool) := do
  let isBinary := !s.showsBinary && s.showing.lineEnd = '\n' && text.elem '\x00'
  if isBinary && s.skipsBinary then return (0, isContinued)
  let found := s.select name hasGaps isContinued text
  if isBinary && !s.isSilent && 0 < found.count then
    complain (name ++ ": binary file matches")
    return (found.count, isContinued)
  printChars found.text.reverse.flatten
  if s.counts && s.lists.isNone && !s.isQuiet then
    let front := if s.showing.hasNames then
        s.showing.name name ++ (match s.showing.nameEnd with
          | some c => [c]
          | none => s.showing.coloured "36" [':'])
      else []
    printChars (front ++ (toString found.count ++ "\n").toList)
  if !s.isQuiet && s.lists = some (decide (0 < found.count)) then
    printChars (s.showing.name name ++ (listEnd o).toList)
  return (found.count, isContinued || !found.text.isEmpty)

/-- How lines are selected and shown, from options. -/
def inquiryOf (o : Chosen) (patterns : List Regex) (hasMany : Bool) : Act Inquiry := do
  let digits := o.filterMap fun p => if p.1.isDigit then some p.1 else none
  let context ← contextOf o 'C'
  let context := if digits.isEmpty then context else (String.ofList digits).toNat?
  let after ← contextOf o 'A'
  let before ← contextOf o 'B'
  let most ← match o.last? 'm' with
    | none => pure none
    | some text =>
      match text.toList with
      | '-' :: ds =>
        if (natural? (String.ofList ds)).isSome then pure none else fail 2 "invalid max count"
      | _ => match amount? text with
        | some n => pure (some n)
        | none => fail 2 "invalid max count"
  let names := o.lastOf? ['h', 'H']
  let binary := o.last? 'Y'
  match binary with
  | some text =>
    if !(["binary", "text", "without-match"].elem text) then fail 2 "unknown binary-files type"
  | none => pure ()
  let showing : Showing :=
    { hasNames := (names.map (· == 'H')).getD hasMany
      hasNumbers := o.has 'n', hasOffsets := o.has 'b', onlyStretches := o.has 'o'
      isAligned := o.has 'T', isColoured := o.last? 'K' = some "always"
      nameEnd := if o.has 'Z' then some '\x00' else none
      lineEnd := if o.has 'z' then '\x00' else '\n' }
  return {
    selector :=
      { patterns, ignoresCase := (o.lastOf? ['i', 'y', 'j']).any (· != 'j')
        isWords := o.has 'w', isWhole := o.has 'x', isInverted := o.has 'v' }
    showing, most
    before := (before.or context).getD 0, after := (after.or context).getD 0
    separator := if o.has 'M' then none else some ((o.last? 'O').getD "--")
    counts := o.has 'c', isQuiet := o.has 'q'
    lists := (o.lastOf? ['l', 'L']).map (· == 'l')
    showsBinary := o.has 'a' || binary = some "text"
    skipsBinary := o.has 'I' || binary = some "without-match" }

/-- Print the lines of files that patterns are found in. -/
def grep (_ : Runner) : Program := do
  let given ← arguments
  let (o, operands) ← match readOptions grepOptions false (given.length + 1) given with
    | .ok read => pure read
    | .error fault => do
      complain fault.text
      grepUsage
  if 1 < ((['E', 'F', 'G', 'P'].filter o.has).length) then
    fail 2 "conflicting matchers specified"
  let (texts, operands) ← patternsOf o operands
  let patterns ← texts.mapM (compiled o)
  let isDeep := o.has 'r' || o.has 'R' || o.last? 'd' = some "recurse"
  let paths ← searchedPaths o operands
  let t ← tree
  let directory := (← read).directory
  let hasMany := if isDeep then operands.isEmpty || 1 < operands.length ||
      (operands.any fun p => t.isDirectory directory (ofOctets p))
    else 1 < operands.length
  let s ← inquiryOf o patterns hasMany
  let output ← outputPlace?
  let hasGaps := s.hasContext || o.has 'A' || o.has 'B' || o.has 'C'
  let mut hasFound := false
  let mut hasFailed := false
  let mut isContinued := false
  for path in paths do
    let name := if path = "-" then (o.last? 'k').getD "(standard input)" else path
    let place? ← if path = "-" then do
        match (← stream? 0).bind (← get).file? with
        | some { target := .file place, .. } => pure (some place)
        | _ => pure none
      else match ← node path with
        | .ok (place, .file _) => pure (some place)
        | _ => pure none
    let isOutput := place?.isSome && place? = output && !s.isQuiet && s.lists.isNone &&
      !s.most.any (· ≤ 1)
    if isOutput then
      if !o.has 's' then complain (name ++ ": input file is also the output")
      hasFailed := true
    else
      match ← readOperand path with
      | .error fault =>
        if !(fault = .file .isDirectory && o.last? 'd' = some "skip") then
          if !o.has 's' then complain (name ++ ": " ++ fault.text)
          hasFailed := true
          if path = "-" && s.counts then
            let _ ← printSelected o s hasGaps isContinued name []
      | .ok text =>
        let (count, after) ← printSelected o s hasGaps isContinued name text
        isContinued := after
        if 0 < count then
          hasFound := true
          if s.isQuiet then quit 0
  return if hasFailed then 2 else if hasFound then 0 else 1

/-- The programs that select lines. -/
def selecting : List (String × (Runner → Program)) := [("grep", grep)]

end ScriptedShell.Local.Program
