/-
# Counting and dumping

Programs that count what is in files, and that print bytes as numbers.
-/
import ScriptedShell.Local.Program.Print
import ScriptedShell.Local.Script.Condition

namespace ScriptedShell.Local.Program

open Act Files Text

/-! ## Counts -/

/-- The number of words of a text. -/
def wordCount : Bool → Nat → List Char → Nat
  | _, n, [] => n
  | inWord, n, c :: cs =>
    let isGap := c = ' ' || (9 ≤ c.toNat && c.toNat ≤ 13)
    wordCount (!isGap) (if !isGap && !inWord then n + 1 else n) cs

/-- The width of the widest line of a text. -/
def widestLine (text : List Char) : Nat :=
  let step := fun (state : Nat × Nat) (c : Char) =>
    if c = '\n' || c = '\r' || c = '\x0c' then (max state.1 state.2, 0)
    else if c = '\t' then (state.1, state.2 + (8 - state.2 % 8))
    else if 32 ≤ c.toNat && c.toNat < 127 then (state.1, state.2 + 1)
    else state
  let (widest, last) := text.foldl step (0, 0)
  max widest last

/-- The counts of a text that are asked for. -/
def countsOf (o : Chosen) (text : List Char) : List Nat :=
  let usual := !("lwcmL".toList.any o.has)
  (if usual || o.has 'l' then [text.count '\n'] else []) ++
    (if usual || o.has 'w' then [wordCount false 0 text] else []) ++
    (if o.has 'm' then [text.length] else []) ++
    (if usual || o.has 'c' then [text.length] else []) ++
    (if o.has 'L' then [widestLine text] else [])

/-- Whether the counts that are asked for are one. -/
def isOneCount (o : Chosen) : Bool :=
  (["l", "w", "c", "m", "L"].filter fun k => k.toList.any o.has).length = 1

/-- The size of a file that is a store of bytes, where an operand leads; `none` for other files. -/
def sizeOfOperand (path : String) : Act (Option (Option Nat)) := do
  if path = "-" then
    match (← stream? 0).bind (← get).file? with
    | some { target := .file place, .. } => return some (some ((← get).bytesAt place).length)
    | some _ => return some none
    | none => return none
  else
    match ← node path with
    | .ok (_, .file bytes) => return some (some bytes.length)
    | .ok _ => return some none
    | .error _ => return none

/-- Print how many lines, words and bytes files have. -/
def wc (_ : Runner) : Program := do
  let known := flags [('c', "bytes"), ('m', "chars"), ('l', "lines"), ('w', "words"),
    ('L', "max-line-length")]
  let (o, paths) ← options known 1 false
  let given := paths
  let paths := if paths.isEmpty then ["-"] else paths
  let sizes ← paths.mapM sizeOfOperand
  let width :=
    if paths.length = 1 && isOneCount o then 1
    else
      let known := sizes.filterMap id
      let sum := (known.filterMap id).foldl (· + ·) 0
      let least := if known.any Option.isNone then 7 else 1
      max least (toString sum).length
  let line := fun (counts : List Nat) (name : Option String) =>
    String.intercalate " " (counts.map fun n => padLeft width (toString n)) ++
      (match name with
        | some name => " " ++ Named.shown name
        | none => "") ++ "\n"
  let mut status := 0
  let mut total : List Nat := []
  let add := fun (a b : List Nat) => if a.isEmpty then b else a.zipWith (· + ·) b
  let most := fun (a b : List Nat) =>
    if o.has 'L' && !a.isEmpty && !b.isEmpty then
      (add a b).dropLast ++ [max (a.getLast?.getD 0) (b.getLast?.getD 0)]
    else add a b
  for path in paths do
    let name := if given.isEmpty then none else some path
    match ← readOperand path with
    | .ok text =>
      let counts := countsOf o text
      total := most total counts
      print (line counts name)
    | .error fault =>
      complainOf path fault.text
      status := 1
      if fault = .file .isDirectory then
        let counts := countsOf o []
        total := most total counts
        print (line counts name)
  if 1 < paths.length then
    print (line (if total.isEmpty then countsOf o [] else total) (some "total"))
  return status

/-! ## Dumps -/

/-- How the bytes of one line of a dump are printed. -/
structure Cell where
  letter : Char
  size : Nat
  showsText : Bool := false
  deriving Repr

namespace Cell

/-- The width of one number, without the gap before it. -/
def width (u : Cell) : Nat :=
  match u.letter, u.size with
  | 'a', _ | 'c', _ => 3
  | 'o', n => (8 * n + 2) / 3
  | 'x', n => 2 * n
  | 'd', 1 => 4
  | 'd', 2 => 6
  | 'd', 4 => 11
  | 'd', _ => 20
  | 'u', 1 => 3
  | 'u', 2 => 5
  | 'u', 4 => 10
  | 'u', _ => 20
  | _, _ => 3

/-- The names of the first bytes and of the gap. -/
def names : List String :=
  ["nul", "soh", "stx", "etx", "eot", "enq", "ack", "bel", "bs", "ht", "nl", "vt", "ff", "cr", "so",
    "si", "dle", "dc1", "dc2", "dc3", "dc4", "nak", "syn", "etb", "can", "em", "sub", "esc", "fs",
    "gs", "rs", "us", "sp"]

/-- One unit of bytes as a text. -/
def text (u : Cell) (bytes : List Char) : String :=
  let value := bytes.reverse.foldl (fun n c => 256 * n + c.toNat) 0
  let whole := Nat.pow 2 (8 * u.size)
  let base := fun (b : Nat) =>
    let ds := Nat.toDigits b value
    String.ofList (List.replicate (u.width - ds.length) '0' ++ ds)
  match u.letter with
  | 'o' => base 8
  | 'x' => base 16
  | 'u' => toString value
  | 'd' => if whole ≤ 2 * value then "-" ++ toString (whole - value) else toString value
  | 'a' =>
    let n := value % 128
    if n = 127 then "del" else (names[n]?).getD (String.singleton (Char.ofNat n))
  | _ =>
    let c := Char.ofNat value
    match c with
    | '\x00' => "\\0"
    | '\x07' => "\\a"
    | '\x08' => "\\b"
    | '\t' => "\\t"
    | '\n' => "\\n"
    | '\x0b' => "\\v"
    | '\x0c' => "\\f"
    | '\r' => "\\r"
    | c =>
      if 32 ≤ value && value < 127 then String.singleton c
      else
        let ds := Nat.toDigits 8 value
        String.ofList (List.replicate (3 - ds.length) '0' ++ ds)

end Cell

/-- The units that a type says. -/
def cellsOf : Nat → List Char → Option (List Cell)
  | 0, _ | _, [] => some []
  | fuel + 1, c :: cs =>
    if !("acdoux".toList.elem c) then none
    else
      let (size, cs) :=
        if c = 'a' || c = 'c' then (1, cs)
        else match cs with
          | 'C' :: cs => (1, cs)
          | 'S' :: cs => (2, cs)
          | 'I' :: cs => (4, cs)
          | 'L' :: cs => (8, cs)
          | cs =>
            let (ds, rest) := cs.span Char.isDigit
            (if ds.isEmpty then 4 else digitsValue ds, rest)
      let (shows, cs) := match cs with
        | 'z' :: cs => (true, cs)
        | cs => (false, cs)
      (cellsOf fuel cs).map fun more => ⟨c, size, shows⟩ :: more

/-- A text cut into pieces of a size. -/
def chunks (size : Nat) : Nat → List Char → List (List Char)
  | 0, _ | _, [] => []
  | fuel + 1, cs => cs.take size :: chunks size fuel (cs.drop size)

/-- The number of a place in a base, with zeros before it. -/
def addressText (base : Char) (n : Nat) : String :=
  let (b, width) := if base = 'x' then (16, 6) else if base = 'd' then (10, 7) else (8, 7)
  let ds := Nat.toDigits b n
  if base = 'n' then "" else String.ofList (List.replicate (width - ds.length) '0' ++ ds)

/-- The lines of one stretch of bytes, one for each kind of unit. -/
def dumpLines (units : List Cell) (lineSize : Nat) (bytes : List Char) : List String :=
  let block := units.foldl (fun n u => max n u.size) 1
  let room := units.foldl (fun n u => max n ((u.width + 1) * (block / u.size))) 0
  units.map fun u =>
    let padded := bytes ++ List.replicate ((u.size - bytes.length % u.size) % u.size) '\x00'
    let perBlock := block / u.size
    let cells := (chunks u.size padded.length padded).map u.text
    let extra := room - perBlock * u.width
    let gapBefore := fun (i : Nat) =>
      let done := extra * (i % perBlock) / perBlock
      extra * (i % perBlock + 1) / perBlock - done
    let line := String.join (cells.zipIdx.map fun (cell, i) =>
      padLeft (u.width + gapBefore i) cell)
    if u.showsText then
      let full := room * (lineSize / block)
      let shown := bytes.map fun c => if 32 ≤ c.toNat && c.toNat < 127 then c else '.'
      padRight full line ++ "  >" ++ String.ofList shown ++ "<"
    else line

/-- The units of the short options. -/
def shortCells : List (Char × List Cell) :=
  [('a', [⟨'a', 1, false⟩]), ('b', [⟨'o', 1, false⟩]), ('c', [⟨'c', 1, false⟩]),
    ('d', [⟨'u', 2, false⟩]), ('i', [⟨'d', 4, false⟩]), ('l', [⟨'d', 8, false⟩]),
    ('o', [⟨'o', 2, false⟩]), ('s', [⟨'d', 2, false⟩]), ('x', [⟨'x', 2, false⟩])]

/-- Print bytes as numbers. -/
def od (_ : Runner) : Program := do
  let known := flags [('a', ""), ('b', ""), ('c', ""), ('d', ""), ('i', ""), ('l', ""), ('o', ""),
    ('s', ""), ('x', ""), ('v', "output-duplicates")] ++
    valued [('A', "address-radix"), ('t', "format"), ('N', "read-bytes"), ('j', "skip-bytes")] ++
    [⟨'w', "width", .attached, true⟩]
  let (o, paths) ← options known 1 false
  let mut units := []
  for (key, value) in o do
    if key = 't' then
      match cellsOf (value.length + 1) value.toList with
      | some more => units := units ++ more
      | none =>
        complain ("invalid type string " ++ Named.quoted value)
        quit 1
    else match shortCells.lookup key with
      | some more => units := units ++ more
      | none => pure ()
  if units.isEmpty then units := [⟨'o', 2, false⟩]
  let base := ((o.last? 'A').bind fun t => t.toList.head?).getD 'o'
  let size := fun (key : Char) => (o.last? key).bind amount?
  let lineSize := match o.last? 'w' with
    | some text => (amount? text).getD 32
    | none => 16
  let (isFine, texts) ← readOperands paths
  let skip := (size 'j').getD 0
  let all := ((texts.map (·.2)).flatten).drop skip
  let all := match size 'N' with
    | some n => all.take n
    | none => all
  if texts.isEmpty && !isFine then return 1
  let pieces := chunks lineSize (all.length + 1) all
  let mut out := #[]
  let mut before : List Char := []
  let mut isStarred := false
  for (piece, i) in pieces.zipIdx do
    if !o.has 'v' && piece = before && piece.length = lineSize && 0 < i then
      if !isStarred then out := out.push "*\n"
      isStarred := true
    else
      isStarred := false
      before := piece
      let address := addressText base (skip + i * lineSize)
      let gap := String.ofList (List.replicate address.length ' ')
      for (line, k) in (dumpLines units lineSize piece).zipIdx do
        out := out.push ((if k = 0 then address else gap) ++ line ++ "\n")
  if base != 'n' then out := out.push (addressText base (skip + all.length) ++ "\n")
  print (String.join out.toList)
  return if isFine then 0 else 1

/-- The programs that count and dump. -/
def counting : List (String × (Runner → Program)) := [("wc", wc), ("od", od)]

end ScriptedShell.Local.Program
