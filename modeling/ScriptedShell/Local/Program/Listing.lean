/-
# Listing

A program that lists the names in directories, in an order and a form of choice.
-/
import ScriptedShell.Local.Program.Order
import ScriptedShell.Local.Program.Remove
import ScriptedShell.Local.Program.Select

namespace ScriptedShell.Local.Program

open Act Files Text

/-! ## Entries -/

/-- Something that is listed. -/
structure Entry where
  /-- The name that is shown, a text of bytes. -/
  name : String
  place : Place
  node : Node

/-- The number of bytes that something has. -/
def sizeOf (t : Tree) (n : Node) : Nat :=
  let _ := t
  match n with
  | .file bytes => bytes.length
  | .program _ => Tree.programBytes.length
  | .directory => 4096
  | .link target => target.utf8ByteSize
  | .device _ => 0

/-- The number of blocks of a thousand bytes that something takes. -/
def blocksOf (t : Tree) (n : Node) : Nat :=
  match n with
  | .link _ | .device _ => 0
  | n => (sizeOf t n + 4095) / 4096 * 4

/-- The number of names that something has. -/
def linkCount (t : Tree) (place : Place) (n : Node) : Nat :=
  match n with
  | .directory => 2 + ((t.namesIn place).filter fun name =>
      t.at? (place ++ [name]) = some .directory).length
  | _ => 1

/-- What a name begins and ends with when names are quoted. -/
inductive NameStyle where
  | literal
  | shell
  | shellAlways
  | c
  | escape
  deriving Repr, DecidableEq

/-- A character of a name after a backslash where it needs one. -/
def escapedChar (quotes : List Char) (c : Char) : List Char :=
  if quotes.elem c || c = '\\' then ['\\', c]
  else if Named.isShown c then [c]
  else match Named.letterOf? c with
    | some l => ['\\', l]
    | none => '\\' :: Named.octal c.toNat

/-- A name as it is shown. -/
def NameStyle.show (s : NameStyle) (name : String) : String :=
  match s with
  | .literal => name
  | .shell => Named.shown name
  | .shellAlways => Named.quoted name
  | .c => "\"" ++ String.ofList (name.toList.flatMap (escapedChar ['"'])) ++ "\""
  | .escape => String.ofList (name.toList.flatMap (escapedChar [' ']))

/-- How names are put on lines. -/
inductive Arrangement where
  | single
  | long
  | down
  | across
  | commas
  deriving Repr, DecidableEq

/-- How directories are listed. -/
structure ListForm where
  arrangement : Arrangement := .single
  style : NameStyle := .literal
  showsHidden : Bool := false
  /-- Whether a directory itself and the one above it are shown too. -/
  showsSelf : Bool := false
  skips : List String := []
  hides : List String := []
  /-- The signs that kinds of files get behind their names. -/
  marks : Option Char := none
  isColoured : Bool := false
  options : Chosen := []
  ending : String := "\n"
  width : Nat := 80

/-- The sign behind the name of a file. -/
def ListForm.mark (f : ListForm) (t : Tree) (e : Entry) : String :=
  match f.marks, e.node with
  | none, _ => ""
  | some _, .directory => "/"
  | some 'p', _ => ""
  | some _, .link _ => "@"
  | some 'f', _ => ""
  | some _, .file _ | some _, .program _ =>
    if Nat.land (t.modeOf e.place) 0o111 != 0 then "*" else ""
  | some _, _ => ""

/-- The colour of a name. -/
def colourOf? (t : Tree) (e : Entry) : Option String :=
  match e.node with
  | .directory => some "01;34"
  | .link _ => some "01;36"
  | .device _ => some "40;33;01"
  | .file _ | .program _ =>
    if Nat.land (t.modeOf e.place) 0o111 != 0 then some "01;32" else none

/-- A name with its sign, and in its colour. -/
def ListForm.shown (f : ListForm) (t : Tree) (e : Entry) : String :=
  let name := f.style.show e.name
  let name := match if f.isColoured then colourOf? t e else none with
    | some colour => "\x1b[" ++ colour ++ "m" ++ name ++ "\x1b[0m"
    | none => name
  name ++ f.mark t e

/-! ## Order -/

/-- The ending of a name from its last dot on. -/
def endingOf (name : String) : String :=
  match name.toList.reverse.span (· != '.') with
  | (tail, _ :: _) => String.ofList ('.' :: tail.reverse)
  | (_, []) => ""

/-- The entries in their order. -/
def ListForm.sorted (f : ListForm) (t : Tree) (entries : List Entry) : List Entry :=
  let o := f.options
  let byName := entries.mergeSort fun a b => a.name ≤ b.name
  let sort := match o.lastOf? ['t', 'S', 'U', 'f', 'X', 'v', '1'] with
    | some '1' => match (o.last? '1').getD "" with
      | "time" => some 't'
      | "size" => some 'S'
      | "none" => some 'U'
      | "extension" => some 'X'
      | "version" => some 'v'
      | _ => none
    | key => key
  let ordered := match sort with
    | some 't' => byName.mergeSort fun a b => t.changedAt b.place ≤ t.changedAt a.place
    | some 'S' => byName.mergeSort fun a b => sizeOf t b.node ≤ sizeOf t a.node
    | some 'X' => byName.mergeSort fun a b => endingOf a.name ≤ endingOf b.name
    | some 'v' => byName.mergeSort fun a b =>
      compareVersions (a.name.length + b.name.length + 2) a.name.toList b.name.toList != .gt
    | some 'U' | some 'f' => entries
    | _ => byName
  let ordered := if o.has 'r' && sort != some 'U' && sort != some 'f' then ordered.reverse
    else ordered
  if o.has '2' then
    let (directories, others) := ordered.partition fun e =>
      match t.node e.place.dropLast (e.place.getLastD ".") with
      | .ok (_, .directory) => true
      | _ => e.node = .directory
    directories ++ others
  else ordered

/-! ## Lines -/

/-- Blanks and tabs from a column to another one. -/
def indent : (fuel column goal : Nat) → List Char
  | 0, _, _ => []
  | fuel + 1, column, goal =>
    if goal ≤ column then []
    else if (column + 1) / 8 < goal / 8 then
      '\t' :: indent fuel (column + (8 - column % 8)) goal
    else ' ' :: indent fuel (column + 1) goal

/-- The widths of the columns when cells are put into a number of them. -/
def columnWidths (isDown : Bool) (count : Nat) (cells : List Nat) : List Nat :=
  let rows := (cells.length + count - 1) / count
  (List.range count).map fun i =>
    let mine := cells.zipIdx.filter fun (_, k) =>
      (if isDown then k / rows else k % count) = i
    mine.foldl (fun w (n, _) => max w n) 0

/-- Cells in as many columns as a line can hold. -/
def inColumns (isDown : Bool) (width : Nat) (cells : List (String × Nat)) : String :=
  let sizes := cells.map (·.2)
  let most := max 1 (min cells.length ((width + 2) / 3))
  let fits := fun (count : Nat) =>
    let widths := columnWidths isDown count sizes
    let widths := widths.zipIdx.map fun (w, i) => if i + 1 = count then w else w + 2
    widths.foldl (· + ·) 0 < width || width = 0
  let count := ((List.range most).reverse.map (· + 1)).find? fits |>.getD 1
  let count := if width = 0 then cells.length else count
  let rows := (cells.length + count - 1) / count
  let widths := columnWidths isDown count sizes
  let lines := (List.range rows).map fun row =>
    let mine := cells.zipIdx.filter fun (_, k) => (if isDown then k % rows else k / count) = row
    let (line, _, _) := mine.foldl (fun (line, column, start) ((text, size), k) =>
      let i := if isDown then k / rows else k % count
      let gap := indent (start - column) column start
      (line ++ String.ofList gap ++ text, start + size, start + (widths.getD i 0) + 2))
      (("", 0, 0) : String × Nat × Nat)
    line ++ "\n"
  String.join lines

/-- Names with commas between them. -/
def withCommas (width : Nat) (names : List String) : String :=
  let (text, _) := names.zipIdx.foldl (fun (text, column) (name, i) =>
    if i = 0 then (name, name.length)
    else if width = 0 || column + name.length + 2 < width then
      (text ++ ", " ++ name, column + name.length + 2)
    else (text ++ ",\n" ++ name, name.length)) (("", 0) : String × Nat)
  if names.isEmpty then "" else text ++ "\n"

/-- The columns of a long line before the name. -/
def longColumns (o : Chosen) (t : Tree) (e : Entry) : List (Bool × String) :=
  let owner := if o.has 'n' then "0" else "root"
  let mode := kindLetter e.node ++ modeLetters (t.modeOf e.place)
  (if o.has 'i' then [(true, "1")] else []) ++
  (if o.has 's' then [(true, toString (blocksOf t e.node))] else []) ++
  [(false, mode), (true, toString (linkCount t e.place e.node))] ++
  (if o.has 'g' then [] else [(false, owner)]) ++
  (if o.has 'G' || o.has 'o' then [] else [(false, owner)]) ++
  [(true, match e.node with
    | .device _ => "1, 3"
    | n => toString (sizeOf t n)), (false, "Jan  1 00:00")]

/-- Entries as long lines. -/
def ListForm.longLines (f : ListForm) (t : Tree) (entries : List Entry) : String :=
  let rows := entries.map fun e => (longColumns f.options t e, e)
  let widths := rows.foldl (fun (widths : List Nat) (columns, _) =>
    if widths.isEmpty then columns.map (·.2.length)
    else (widths.zip columns).map fun (w, c) => max w c.2.length) []
  String.join (rows.map fun (columns, e) =>
    let cells := (columns.zip widths).map fun ((isRight, text), w) =>
      if isRight then padLeft w text else padRight w text
    let target := match e.node with
      | .link target => " -> " ++ f.style.show (toOctets target)
      | _ => ""
    String.intercalate " " cells ++ " " ++ f.shown t e ++ target ++ f.ending)

/-- Entries on lines. -/
def ListForm.lines (f : ListForm) (t : Tree) (entries : List Entry) : String :=
  let front := fun (e : Entry) =>
    (if f.options.has 'i' then "1 " else "") ++
      (if f.options.has 's' then
        let widest := entries.foldl (fun w e => max w (toString (blocksOf t e.node)).length) 0
        padLeft widest (toString (blocksOf t e.node)) ++ " " else "")
  let cell := fun (e : Entry) => front e ++ f.shown t e
  let size := fun (e : Entry) =>
    (front e ++ f.style.show e.name ++ f.mark t e).length
  match f.arrangement with
  | .long => f.longLines t entries
  | .commas => withCommas f.width (entries.map cell)
  | .down => if entries.isEmpty then "" else
      inColumns true f.width (entries.map fun e => (cell e, size e))
  | .across => if entries.isEmpty then "" else
      inColumns false f.width (entries.map fun e => (cell e, size e))
  | .single => String.join (entries.map fun e => cell e ++ f.ending)

/-! ## Directories -/

/-- The entries of a directory. -/
def ListForm.entriesOf (f : ListForm) (t : Tree) (place : Place) : List Entry :=
  let named := (t.namesIn place).filterMap fun name =>
    let shown := toOctets name
    let isHidden := shown.toList.head? = some '.'
    let isSkipped := isLike f.skips shown ||
      (f.options.has 'B' && shown.toList.getLast? = some '~') ||
      (!f.showsHidden && !f.showsSelf && isLike f.hides shown)
    if (isHidden && !(f.showsHidden || f.showsSelf)) || isSkipped then none
    else
      let inner := place ++ [name]
      let node := if f.options.has 'L' then
          match t.node place name with
          | .ok (_, n) => some n
          | .error _ => t.at? inner
        else t.at? inner
      node.map fun n => ⟨shown, inner, n⟩
  let own := if f.showsSelf then
      [⟨".", place, .directory⟩, ⟨"..", place.dropLast, .directory⟩]
    else []
  own ++ named

/-- The lines of a directory, and for a deep listing of those inside it, each under its name. -/
def ListForm.directory (f : ListForm) (t : Tree) : (depth : Nat) → (isDeep : Bool) →
    (path : String) → Place → List String
  | 0, _, _, _ => []
  | depth + 1, isDeep, path, place =>
    let entries := f.sorted t (f.entriesOf t place)
    let total := if f.arrangement = .long || f.options.has 's' then
        "total " ++ toString ((entries.map fun e => blocksOf t e.node).foldl (· + ·) 0) ++ "\n"
      else ""
    let here := total ++ f.lines t entries
    if isDeep then
      let inner := entries.filter fun e =>
        e.node = .directory && e.name != "." && e.name != ".."
      here :: inner.flatMap fun e =>
        let below := if path.toList.getLast? = some '/' then path ++ e.name
          else path ++ "/" ++ e.name
        match f.directory t depth true below e.place with
        | [] => []
        | first :: rest => ("\n" ++ f.style.show below ++ ":\n" ++ first) :: rest
    else [here]

/-- The options of the program. -/
def listOptions : List Known :=
  flags [('a', "all"), ('b', "escape"), ('d', "directory"), ('n', "numeric-uid-gid"), ('g', ""),
    ('h', "human-readable"), ('i', "inode"), ('k', "kibibytes"), ('l', ""),
    ('o', ""), ('p', ""), ('q', "hide-control-chars"), ('r', "reverse"), ('s', "size")] ++
  valued [('w', "width")] ++ flags [('A', "almost-all"), ('B', "ignore-backups")] ++
  [⟨'F', "classify", .nothing, true⟩, ⟨'5', "file-type", .nothing, false⟩,
    ⟨'6', "si", .nothing, false⟩] ++
  flags [('H', "dereference-command-line"), ('2', "group-directories-first"), ('G', "no-group")] ++
  [⟨'7', "hide", .value, false⟩] ++ valued [('I', "ignore")] ++
  [⟨'8', "indicator-style", .value, false⟩] ++
  flags [('L', "dereference"), ('N', "literal"), ('Q', "quote-name")] ++
  [⟨'9', "quoting-style", .value, false⟩] ++ flags [('R', "recursive")] ++
  [⟨'0', "format", .value, false⟩, ⟨'3', "show-control-chars", .nothing, false⟩,
    ⟨'1', "sort", .value, false⟩] ++
  valued [('T', "tabsize")] ++ [⟨'4', "time", .value, false⟩, ⟨'5', "time-style", .value, false⟩,
    ⟨'K', "color", .attached, false⟩, ⟨'D', "dired", .nothing, true⟩,
    ⟨'z', "zero", .nothing, false⟩, ⟨'W', "full-time", .nothing, false⟩] ++
  "cCfmStuUvxXZ".toList.map fun c => ⟨c, "", .nothing, true⟩

/-- Complain about a value that an option cannot have. -/
def invalidValue (value option : String) (valid : List String) (status : Nat) : Act α := do
  complain ("invalid argument " ++ Named.quoted value ++ " for '--" ++ option ++ "'")
  complainRaw "Valid arguments are:\n"
  for v in valid do
    complainRaw ("  - '" ++ v ++ "'\n")
  seeHelp status

/-- The form of a listing from options. -/
def formOf (o : Chosen) : Act ListForm := do
  match o.last? '1' with
  | some v =>
    let valid := ["none", "time", "size", "extension", "version", "width"]
    if !(valid.elem v || v = "name") then invalidValue v "sort" valid 1
  | none => pure ()
  let arrangement : Arrangement :=
    match (o.filter fun p => "lCxmgno0z!".toList.elem p.1).getLast? with
    | some ('C', _) => .down
    | some ('x', _) => .across
    | some ('m', _) => .commas
    | some ('0', "commas") => .commas
    | some ('0', "across") | some ('0', "horizontal") => .across
    | some ('0', "vertical") => .down
    | some ('0', "long") | some ('0', "verbose") => .long
    | some ('0', _) | some ('!', _) | some ('z', _) | none => .single
    | some _ => .long
  let style : NameStyle := match (o.filter fun p => "QbN9".toList.elem p.1).getLast? with
    | some ('Q', _) => .c
    | some ('b', _) => .escape
    | some ('9', "shell") | some ('9', "shell-escape") => .shell
    | some ('9', "shell-always") | some ('9', "shell-escape-always") => .shellAlways
    | some ('9', "c") => .c
    | some ('9', "escape") => .escape
    | _ => .literal
  let marks := match (o.filter fun p => "Fp8".toList.elem p.1).getLast? with
    | some ('F', _) | some ('8', "classify") => some 'F'
    | some ('p', _) | some ('8', "slash") => some 'p'
    | some ('8', "file-type") => some 'f'
    | _ => none
  let columns := ((← read).environment.lookup "COLUMNS").bind natural?
  let width := match o.last? 'w' with
    | some text => natural? text
    | none => columns
  return {
    arrangement, style, marks
    showsHidden := o.has 'A', showsSelf := o.has 'a' || o.has 'f'
    skips := o.all 'I', hides := o.all '7', options := o
    isColoured := o.last? 'K' = some "always"
    ending := if o.has 'z' then "\x00" else "\n"
    width := width.getD 80 }

/-- List directories. -/
def ls (_ : Runner) : Program := do
  let given ← arguments
  let given := given.map fun a => match a.toList with
    | '-' :: c :: cs => if c = '-' then a else
        String.ofList ('-' :: (c :: cs).map fun c => if c = '1' then '!' else c)
    | _ => a
  let (o, paths) ← withArguments given
    (options (⟨'!', "", .nothing, true⟩ :: listOptions) 2 false)
  let f ← formOf o
  let t ← tree
  let mut status := 0
  let mut files := #[]
  let mut directories := #[]
  let paths := if paths.isEmpty then ["."] else paths
  let follows := o.has 'H' || o.has 'L' ||
    !(o.has 'd' || f.arrangement = .long || f.marks = some 'F')
  for path in paths do
    let found ← if follows then do
        match ← node path with
        | .error fault => if o.has 'L' then pure (.error fault) else do
          match ← linkNode path with
          | .ok found => pure (.ok found)
          | .error _ => pure (.error fault)
        | .ok (place, .directory) => pure (.ok (place, .directory))
        | .ok found => if o.has 'L' then pure (.ok found) else do
          match ← linkNode path with
          | .ok found => pure (.ok found)
          | .error _ => pure (.ok found)
      else linkNode path
    match found with
    | .error fault =>
      complain ("cannot access " ++ Named.quoted path ++ ": " ++ fault.text)
      status := 2
    | .ok (place, .directory) =>
      if o.has 'd' then files := files.push (⟨path, place, .directory⟩ : Entry)
      else directories := directories.push (⟨path, place, .directory⟩ : Entry)
    | .ok (place, n) => files := files.push ⟨path, place, n⟩
  let listed := f.sorted t files.toList
  print (f.lines t listed)
  let hasNames := 1 < paths.length || o.has 'R'
  let mut isFirst := listed.isEmpty
  for e in f.sorted t directories.toList do
    if hasNames then
      print ((if isFirst then "" else "\n") ++ f.style.show e.name ++ ":\n")
    isFirst := false
    for text in f.directory t maxDepth (o.has 'R') e.name e.place do
      print text
  return status

/-- The programs that list. -/
def listing : List (String × (Runner → Program)) := [("ls", ls)]

end ScriptedShell.Local.Program
