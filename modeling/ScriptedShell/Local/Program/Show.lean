/-
# Showing files

Programs that print files as they are, in part, backwards or with numbers before their lines.
-/
import ScriptedShell.Local.Program.Amount

namespace ScriptedShell.Local.Program

open Act Files Text

/-! ## Whole files -/

/-- How bytes are made visible. -/
structure Visible where
  ends : Bool := false
  tabs : Bool := false
  controls : Bool := false

/-- A byte made visible. -/
def Visible.show (v : Visible) (c : Char) : List Char :=
  if c = '\n' then if v.ends then ['$', '\n'] else ['\n']
  else if c = '\t' then if v.tabs then ['^', 'I'] else ['\t']
  else if !v.controls then [c]
  else
    let n := c.toNat
    let low := fun (n : Nat) =>
      if n < 32 then ['^', Char.ofNat (n + 64)] else if n = 127 then ['^', '?'] else [Char.ofNat n]
    if n < 128 then low n else ['M', '-'] ++ low (n - 128)

/-- What numbering and squeezing lines goes on with: the next number, the number of empty lines just
before, and whether a line begins here. -/
structure Numbering where
  next : Nat := 1
  empties : Nat := 0
  atStart : Bool := true

/-- A number before a line. -/
def lineNumber (n : Nat) : List Char := (padLeft 6 (toString n) ++ "\t").toList

/-- Lines with numbers before them, and without repeated empty ones. -/
def numberLines (numbers squeezes skipsEmpty : Bool) (show' : Char → List Char) :
    Numbering → List Char → List (List Char) → Numbering × List Char
  | s, [], done => (s, done.reverse.flatten)
  | s, c :: cs, done =>
    if s.atStart && c = '\n' then
      if squeezes && 1 ≤ s.empties then
        numberLines numbers squeezes skipsEmpty show' { s with empties := s.empties + 1 } cs done
      else
        let numbered := numbers && !skipsEmpty
        let front := if numbered then lineNumber s.next else []
        let next := if numbered then s.next + 1 else s.next
        numberLines numbers squeezes skipsEmpty show' ⟨next, s.empties + 1, true⟩ cs
          (show' c :: front :: done)
    else
      let front := if s.atStart && numbers then lineNumber s.next else []
      let next := if s.atStart && numbers then s.next + 1 else s.next
      numberLines numbers squeezes skipsEmpty show' ⟨next, 0, c = '\n'⟩ cs
        (show' c :: front :: done)

/-- The place of the file that the output leads to. -/
def outputPlace? : Act (Option Place) := do
  match (← stream? 1).bind (← get).file? with
  | some { target := .file place, .. } => return some place
  | _ => return none

/-- Print files one after the other. -/
def cat (_ : Runner) : Program := do
  let known := flags [('b', "number-nonblank"), ('n', "number"), ('s', "squeeze-blank"),
    ('v', "show-nonprinting"), ('E', "show-ends"), ('T', "show-tabs"), ('A', "show-all"),
    ('e', ""), ('t', ""), ('u', "")]
  let (o, paths) ← options known 1 false
  let v : Visible :=
    { ends := o.has 'A' || o.has 'e' || o.has 'E'
      tabs := o.has 'A' || o.has 't' || o.has 'T'
      controls := o.has 'A' || o.has 'e' || o.has 't' || o.has 'v' }
  let isPlain := !(v.ends || v.tabs || v.controls || o.has 'n' || o.has 'b' || o.has 's')
  let output ← outputPlace?
  let mut numbering : Numbering := {}
  let mut status := 0
  for path in if paths.isEmpty then ["-"] else paths do
    let isOutput := match ← node path with
      | .ok (place, .file _) => output = some place && path != "-"
      | _ => false
    match ← readOperand path with
    | .error fault =>
      complainOf path fault.text
      status := 1
    | .ok text =>
      if isOutput && !text.isEmpty then
        complainOf path "input file is output file"
        status := 1
      else if isPlain then printChars text
      else
        let (after, text) := numberLines (o.has 'n' || o.has 'b') (o.has 's') (o.has 'b') v.show
          numbering text []
        numbering := after
        printChars text
  return status

/-- A text reversed in pieces that end with a separator. -/
def tacText (separator : List Char) (isBefore : Bool) (text : List Char) : List Char :=
  let rec cut (fuel : Nat) (piece : List Char) (done : List (List Char)) :
      List Char → List (List Char)
    | [] => if piece.isEmpty then done else piece.reverse :: done
    | c :: cs =>
      match fuel with
      | 0 => done
      | fuel + 1 =>
        if separator.isPrefixOf (c :: cs) && !separator.isEmpty then
          let rest := (c :: cs).drop separator.length
          if isBefore then
            cut fuel separator.reverse (if piece.isEmpty then done else piece.reverse :: done) rest
          else cut fuel [] ((piece.reverse ++ separator) :: done) rest
        else cut fuel (c :: piece) done cs
  (cut (text.length + 1) [] [] text).flatten

/-- Print files with their last lines first. -/
def tac (_ : Runner) : Program := do
  let known := flags [('b', "before"), ('r', "regex")] ++ valued [('s', "separator")]
  let (o, paths) ← options known 1 false
  let separator := ((o.last? 's').getD "\n").toList
  forEach (if paths.isEmpty then ["-"] else paths) fun path => do
    match ← readOperand path with
    | .ok text =>
      printChars (tacText separator (o.has 'b') text)
      return 0
    | .error (.file .isDirectory) =>
      complainOf path "read error: Invalid argument"
      return 1
    | .error fault =>
      complain ("failed to open " ++ Named.quoted path ++ " for reading: " ++ fault.text)
      return 1

/-- Print lines with their last characters first. -/
def rev (_ : Runner) : Program := do
  let (_, paths) ← options [] 1 false
  forEach (if paths.isEmpty then ["-"] else paths) fun path => do
    match ← readOperand path with
    | .ok text =>
      let (lines, isEnded) := rawLines text
      printChars (unlines (lines.map List.reverse) isEnded)
      return 0
    | .error fault =>
      complain ((if fault = .file .isDirectory then "" else "cannot open ") ++ path ++ ": " ++
        fault.text)
      return 1

/-! ## Parts of files -/

/-- A text cut into lines that keep their ends. -/
def endedLines (ending : Char) : List Char → List (List Char) → List Char → List (List Char)
  | line, done, [] => (if line.isEmpty then done else line.reverse :: done).reverse
  | line, done, c :: cs =>
    if c = ending then endedLines ending [] ((c :: line).reverse :: done) cs
    else endedLines ending (c :: line) done cs

/-- How much of a file is printed. -/
structure Extent where
  isBytes : Bool := false
  count : Nat := 10
  /-- Whether the count says what is left out. -/
  isInverted : Bool := false
  ending : Char := '\n'

/-- The number of units that are kept, out of all. -/
def Extent.kept (e : Extent) (all : Nat) : Nat := if e.isInverted then all - e.count else e.count

/-- The front of a text. -/
def Extent.front (e : Extent) (text : List Char) : List Char :=
  if e.isBytes then text.take (e.kept text.length)
  else
    let lines := endedLines e.ending [] [] text
    (lines.take (e.kept lines.length)).flatten

/-- The end of a text. -/
def Extent.back (e : Extent) (text : List Char) : List Char :=
  if e.isBytes then
    if e.isInverted then text.drop (e.count - 1) else text.drop (text.length - e.count)
  else
    let lines := endedLines e.ending [] [] text
    (if e.isInverted then lines.drop (e.count - 1)
      else lines.drop (lines.length - e.count)).flatten

/-- The options of programs that print parts of files. -/
def extentOptions : List Known :=
  flags [('q', "quiet"), ('v', "verbose"), ('z', "zero-terminated"), ('f', "follow"), ('F', "")] ++
    valued [('n', "lines"), ('c', "bytes"), ('s', "sleep-interval")] ++
    [⟨'q', "silent", .nothing, true⟩]

/-- The extent that options say.  Once an option has turned it round, it stays so. -/
def extentOf (o : Chosen) (inverting : Char) : Act Extent := do
  let mut extent : Extent := { ending := if o.has 'z' then '\x00' else '\n' }
  for (key, text) in o.filter fun p => p.1 = 'n' || p.1 = 'c' do
    let cs := text.toList
    let sign := cs.head?.filter fun c => c = '-' || c = '+'
    let digits := if sign.isSome then String.ofList (cs.drop 1) else text
    match amount? digits with
    | some count =>
      extent := { extent with
        isBytes := key = 'c', count, isInverted := extent.isInverted || sign = some inverting }
    | none =>
      complain ("invalid number of " ++ (if key = 'c' then "bytes" else "lines") ++ ": " ++
        Named.quoted text)
      quit 1
  return extent

/-- The name of a file over its part. -/
def headline (path : String) : String :=
  "==> " ++ (if path = "-" then "standard input" else path) ++ " <==\n"

/-- Print a part of each file, with names over them if there are several. -/
def showParts (o : Chosen) (paths : List String) (part : List Char → List Char) : Act Nat := do
  let paths := if paths.isEmpty then ["-"] else paths
  let hasNames := match o.lastOf? ['q', 'v'] with
    | some 'q' => false
    | some _ => true
    | none => 1 < paths.length
  let mut status := 0
  let mut isFirst := true
  for path in paths do
    let announce := fun (isFirst : Bool) =>
      if hasNames then print ((if isFirst then "" else "\n") ++ headline path) else pure ()
    match ← readOperand path with
    | .ok text =>
      announce isFirst
      isFirst := false
      printChars (part text)
    | .error (.file .isDirectory) =>
      announce isFirst
      isFirst := false
      complain ("error reading " ++ Named.quoted path ++ ": Is a directory")
      status := 1
    | .error fault =>
      complain ("cannot open " ++ Named.quoted path ++ " for reading: " ++ fault.text)
      status := 1
  return status

/-- The short form of an extent, digits with letters after them, as options. -/
def shortExtent (digits letters : List Char) (sign : List Char) : Option (List String) :=
  let number := String.ofList (sign ++ digits)
  match letters with
  | [] => some ["-n", number]
  | ['c'] => some ["-c", number]
  | ['l'] => some ["-n", number]
  | ['b'] => some ["-c", number ++ "b"]
  | ['k'] => some ["-c", number ++ "k"]
  | ['m'] => some ["-c", number ++ "m"]
  | ['q'] => some ["-q", "-n", number]
  | ['v'] => some ["-v", "-n", number]
  | _ => none

/-- Arguments with a short form at their front written out. -/
def writeOut (signs : List Char) (arguments : List String) : List String :=
  match arguments with
  | a :: rest =>
    match a.toList with
    | sign :: c :: cs =>
      if signs.elem sign && c.isDigit then
        let (digits, letters) := (c :: cs).span Char.isDigit
        match shortExtent digits letters (if sign = '+' then ['+'] else []) with
        | some options => options ++ rest
        | none => arguments
      else arguments
    | _ => arguments
  | [] => []

/-- Do something as a task with other arguments. -/
def withArguments (arguments : List String) (act : Act α) : Act α :=
  withReader (fun task => { task with arguments }) act

/-- Print the fronts of files. -/
def head (_ : Runner) : Program := do
  let given := writeOut ['-'] (← arguments)
  let (o, paths) ← withArguments given (options extentOptions 1 false)
  let extent ← extentOf o '-'
  showParts o paths extent.front

/-- Print the ends of files. -/
def tail (_ : Runner) : Program := do
  let given := writeOut ['-', '+'] (← arguments)
  let (o, paths) ← withArguments given (options extentOptions 1 false)
  let extent ← extentOf o '+'
  showParts o paths extent.back

/-! ## Numbers before lines -/

/-- Print files with numbers before their lines. -/
def nl (_ : Runner) : Program := do
  let known := valued [('b', "body-numbering"), ('h', "header-numbering"),
    ('f', "footer-numbering"), ('i', "line-increment"), ('l', "join-blank-lines"),
    ('n', "number-format"), ('s', "number-separator"), ('v', "starting-line-number"),
    ('w', "number-width"), ('d', "section-delimiter")] ++ flags [('p', "no-renumber")]
  let (o, paths) ← options known 1 false
  let width ← natural ((o.last? 'w').getD "6") "line number field width" 1
  let step ← natural ((o.last? 'i').getD "1") "line number increment" 1
  let start ← natural ((o.last? 'v').getD "1") "starting line number" 1
  let separator := (o.last? 's').getD "\t"
  let style := (o.last? 'b').getD "t"
  let form := (o.last? 'n').getD "rn"
  let (isFine, texts) ← readOperands paths
  let (lines, _) := rawLines (texts.map (·.2)).flatten
  let number := fun (n : Nat) =>
    let text := toString n
    if form = "ln" then padRight width text
    else if form = "rz" then
      String.ofList (List.replicate (width - text.length) '0') ++ text
    else padLeft width text
  let gap := String.ofList (List.replicate (width + separator.length) ' ')
  let mut n := start
  let mut all := #[]
  for line in lines do
    if style = "a" || (style = "t" && !line.isEmpty) then
      all := all.push ((number n ++ separator).toList ++ line ++ ['\n'])
      n := n + step
    else all := all.push (gap.toList ++ line ++ ['\n'])
  printChars all.toList.flatten
  return if isFine then 0 else 1

/-! ## Widths of lines -/

/-- The column after a character. -/
def columnAfter (isBytes : Bool) (column : Nat) (c : Char) : Nat :=
  if isBytes then column + 1
  else if c = '\x08' then column - 1
  else if c = '\r' then 0
  else if c = '\t' then column + (8 - column % 8)
  else column + 1

/-- A line cut into lines that are no wider than a width; with `atGaps` after blanks where there are
some. -/
def foldLine (isBytes atGaps : Bool) (width : Nat) : Nat → List Char → Nat → List Char →
    List (List Char)
  | 0, line, _, _ => [line.reverse]
  | _ + 1, line, _, [] => [line.reverse]
  | fuel + 1, line, column, c :: cs =>
    let next := columnAfter isBytes column c
    if width < next then
      let isGap := fun (c : Char) => c = ' ' || c = '\t'
      let (tail, front) := if atGaps then line.span fun c => !isGap c else ([], line)
      if atGaps && !front.isEmpty then
        let tail := tail.reverse
        front.reverse :: foldLine isBytes atGaps width fuel tail.reverse
          (tail.foldl (columnAfter isBytes) 0) (c :: cs)
      else if line.isEmpty then foldLine isBytes atGaps width fuel [c] next cs
      else line.reverse :: foldLine isBytes atGaps width fuel [] 0 (c :: cs)
    else foldLine isBytes atGaps width fuel (c :: line) next cs

/-- Print files with lines that are too wide cut. -/
def fold (_ : Runner) : Program := do
  let known := flags [('b', "bytes"), ('s', "spaces")] ++ valued [('w', "width")]
  let short := (← arguments).map fun a =>
    match a.toList with
    | '-' :: c :: cs => if c.isDigit then "-w" ++ String.ofList (c :: cs) else a
    | _ => a
  let (o, paths) ← withArguments short (options known 1 false)
  let text := (o.last? 'w').getD "80"
  let width ← natural text "number of columns" 1
  if width = 0 then
    complain ("invalid number of columns: " ++ Named.quoted text ++
      ": Numerical result out of range")
    quit 1
  forEach (if paths.isEmpty then ["-"] else paths) fun path => do
    match ← readOperand path with
    | .ok text =>
      let (lines, isEnded) := rawLines text
      let cut := lines.flatMap fun line =>
        foldLine (o.has 'b') (o.has 's') width (2 * line.length + 2) [] 0 line
      printChars (unlines cut isEnded)
      return 0
    | .error fault =>
      complainOf path fault.text
      return 1

/-! ## Tabs -/

/-- The column of the tab stop after a column. -/
def nextStop (stops : List Nat) (column : Nat) : Nat :=
  match stops with
  | [] => column + (8 - column % 8)
  | [n] => column + (n - column % n)
  | stops => (stops.find? fun s => column < s).getD (column + 1)

/-- A line with its tabs replaced by blanks; with `isInitial` only those before other characters. -/
def expandLine (stops : List Nat) (isInitial : Bool) : Nat → Bool → List Char → List Char
  | _, _, [] => []
  | column, isFront, c :: cs =>
    if c = '\t' && (isFront || !isInitial) then
      let next := nextStop stops column
      List.replicate (next - column) ' ' ++ expandLine stops isInitial next isFront cs
    else c :: expandLine stops isInitial (if c = '\x08' then column - 1 else column + 1)
      (isFront && c = ' ') cs

/-- The tab stops that an option says. -/
def tabStops (text : String) : Act (List Nat) := do
  let pieces := (piecesOf (fun c => c = ',' || c = ' ') text.toList).map String.ofList
  let stops ← (pieces.filter (!·.isEmpty)).mapM fun p =>
    match natural? p with
    | some n => pure n
    | none => do
      complain ("tab size contains invalid character(s): " ++ Named.quoted p)
      quit 1
  if stops.elem 0 then
    complain "tab size cannot be 0"
    quit 1
  return stops

/-- Print files with tabs replaced by blanks. -/
def expand (_ : Runner) : Program := do
  let known := flags [('i', "initial")] ++ valued [('t', "tabs")]
  let (o, paths) ← options known 1 false
  let stops ← tabStops ((o.last? 't').getD "8")
  let (isFine, texts) ← readOperands paths
  let (lines, isEnded) := rawLines (texts.map (·.2)).flatten
  printChars (unlines (lines.map (expandLine stops (o.has 'i') 0 true)) isEnded)
  return if isFine then 0 else 1

/-- A line with blanks before a tab stop replaced by tabs. -/
def unexpandLine (stops : List Nat) (isAll : Bool) : Nat → (gap : List Char) → (start : Nat) →
    List Char → List Char
  | _, gap, _, [] => gap.reverse
  | column, gap, start, c :: cs =>
    if c = ' ' || c = '\t' then
      let next := if c = '\t' then nextStop stops column else column + 1
      if c = '\t' then '\t' :: unexpandLine stops isAll next [] next cs
      else if nextStop stops (next - 1) = next && 1 < next - start then
        '\t' :: unexpandLine stops isAll next [] next cs
      else unexpandLine stops isAll next (c :: gap) start cs
    else if isAll then gap.reverse ++ c :: unexpandLine stops isAll (column + 1) [] (column + 1) cs
    else gap.reverse ++ c :: cs

/-- Print files with blanks replaced by tabs. -/
def unexpand (_ : Runner) : Program := do
  let known := flags [('a', "all")] ++ valued [('t', "tabs")] ++ longFlags [('1', "first-only")]
  let (o, paths) ← options known 1 false
  let stops ← tabStops ((o.last? 't').getD "8")
  let isAll := (o.has 'a' || o.has 't') && !o.has '1'
  let (isFine, texts) ← readOperands paths
  let (lines, isEnded) := rawLines (texts.map (·.2)).flatten
  printChars (unlines (lines.map (unexpandLine stops isAll 0 [] 0)) isEnded)
  return if isFine then 0 else 1

/-- The programs that show files. -/
def showing : List (String × (Runner → Program)) :=
  [("cat", cat), ("tac", tac), ("rev", rev), ("head", head), ("tail", tail), ("nl", nl),
    ("fold", fold), ("expand", expand), ("unexpand", unexpand)]

end ScriptedShell.Local.Program
