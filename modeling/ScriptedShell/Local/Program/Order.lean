/-
# Order of lines

Programs that put lines in order and leave out repeated ones.  An order is made of keys, each of
which is a part of a line that is compared in its own way.
-/
import ScriptedShell.Local.Program.Print

namespace ScriptedShell.Local.Program

open Act Number Text

/-! ## Ways to compare -/

/-- How two texts are compared. -/
inductive Way where
  | bytes
  | numeric
  | general
  | human
  | month
  | version
  deriving Repr, DecidableEq

/-- The decimal number at the front of a text, as a whole number and how many of its digits follow
the point. -/
def decimalAt (cs : List Char) : Int × Nat × List Char :=
  let cs := cs.dropWhile fun c => c = ' ' || c = '\t'
  let (isNegative, cs) := match cs with
    | '-' :: cs => (true, cs)
    | cs => (false, cs)
  let (whole, rest) := cs.span Char.isDigit
  let (places, rest) := match rest with
    | '.' :: rest => rest.span Char.isDigit
    | rest => ([], rest)
  let n := digitsValue (whole ++ places)
  (if isNegative then -(n : Int) else n, places.length, rest)

/-- The order of two decimal numbers. -/
def compareDecimals (a b : Int × Nat) : Ordering :=
  compare (a.1 * Nat.pow 10 b.2) (b.1 * Nat.pow 10 a.2)

/-- The number of the power that a letter after a number stands for. -/
def powerAfter (cs : List Char) : Int :=
  match cs with
  | c :: _ => ((powerOf? c).getD 0 : Nat)
  | [] => 0

/-- The number of a month by its name. -/
def monthOf (cs : List Char) : Nat :=
  let name := ((cs.dropWhile fun c => c = ' ' || c = '\t').take 3).map Char.toUpper
  let names := ["JAN", "FEB", "MAR", "APR", "MAY", "JUN", "JUL", "AUG", "SEP", "OCT", "NOV", "DEC"]
  match names.findIdx? fun n => n.toList = name with
  | some i => i + 1
  | none => 0

/-- The place of a character among those that are no digits in versions. -/
def versionRank (c : Char) : Int :=
  if c.isAlpha then c.toNat
  else if c = '~' then -1
  else (c.toNat : Int) + 256

/-- The order of two versions: digits are compared as numbers, and other stretches by ranks. -/
def compareVersions : Nat → List Char → List Char → Ordering
  | 0, _, _ => .eq
  | fuel + 1, as, bs =>
    let (a, as) := as.span fun c => !c.isDigit
    let (b, bs) := bs.span fun c => !c.isDigit
    match ranks a b with
    | .eq =>
      let (m, as) := as.span Char.isDigit
      let (n, bs) := bs.span Char.isDigit
      match compare (digitsValue m) (digitsValue n) with
      | .eq => if as.isEmpty && bs.isEmpty then .eq else compareVersions fuel as bs
      | order => order
    | order => order
where
  /-- The order of two stretches without digits. -/
  ranks : List Char → List Char → Ordering
    | [], [] => .eq
    | [], c :: _ => compare 0 (versionRank c)
    | c :: _, [] => compare (versionRank c) 0
    | c :: cs, d :: ds => (compare (versionRank c) (versionRank d)).then (ranks cs ds)

/-- A number with a power, as a fraction that can be compared; what is no number comes first. -/
def generalRank (cs : List Char) : Option (Int × Nat) :=
  match Quantity.readAt? cs with
  | some (.finite isNegative num den, _) => some (if isNegative then -(num : Int) else num, den)
  | some (.infinite isNegative, _) => some (if isNegative then -(Nat.pow 10 400) else Nat.pow 10 400, 1)
  | _ => none

/-- The order of two texts. -/
def Way.compare (way : Way) (a b : List Char) : Ordering :=
  match way with
  | bytes => Ord.compare (String.ofList a) (String.ofList b)
  | numeric =>
    let (m, p, _) := decimalAt a
    let (n, q, _) := decimalAt b
    compareDecimals (m, p) (n, q)
  | general =>
    match generalRank a, generalRank b with
    | none, none => .eq
    | none, some _ => .lt
    | some _, none => .gt
    | some (m, p), some (n, q) => Ord.compare (m * q) (n * p)
  | human =>
    let (m, p, restA) := decimalAt a
    let (n, q, restB) := decimalAt b
    let rank := fun (n : Int) (rest : List Char) =>
      if n < 0 then -(powerAfter rest) - 1 else if n = 0 then 0 else powerAfter rest + 1
    (Ord.compare (rank m restA) (rank n restB)).then (compareDecimals (m, p) (n, q))
  | month => Ord.compare (monthOf a) (monthOf b)
  | version => (compareVersions (a.length + b.length + 2) a b).then
      (Ord.compare (String.ofList a) (String.ofList b))

/-! ## Keys -/

/-- How a key is compared. -/
structure Manner where
  way : Way := .bytes
  isReversed : Bool := false
  folds : Bool := false
  /-- Only letters, digits and blanks count. -/
  isDictionary : Bool := false
  /-- Only characters that can be printed count. -/
  isPrintable : Bool := false
  skipsFront : Bool := false
  skipsEnd : Bool := false
  deriving Repr, DecidableEq

/-- The manner with an option letter. -/
def Manner.withLetter (m : Manner) (atEnd : Bool) : Char → Option Manner
  | 'n' => some { m with way := .numeric }
  | 'g' => some { m with way := .general }
  | 'h' => some { m with way := .human }
  | 'M' => some { m with way := .month }
  | 'V' => some { m with way := .version }
  | 'r' => some { m with isReversed := true }
  | 'f' => some { m with folds := true }
  | 'd' => some { m with isDictionary := true }
  | 'i' => some { m with isPrintable := true }
  | 'b' => some (if atEnd then { m with skipsEnd := true } else { m with skipsFront := true })
  | _ => none

/-- A key: where it begins and where it ends. -/
structure Key where
  field : Nat
  char : Nat
  /-- The field and the character that it ends with; the character 0 is the end of the field. -/
  last : Option (Nat × Nat)
  manner : Manner
  deriving Repr

/-- Whether a character sets fields apart when nothing else does. -/
def isBlankChar (c : Char) : Bool := c = ' ' || c = '\t' || c = '\n'

/-- A line without some fields at its front. -/
def dropFields (mark : Option Char) : Nat → List Char → List Char
  | 0, cs => cs
  | n + 1, cs =>
    match mark with
    | some m => dropFields mark n ((cs.dropWhile (· != m)).drop 1)
    | none => dropFields mark n ((cs.dropWhile isBlankChar).dropWhile fun c => !isBlankChar c)

/-- The number of characters before the end of a field. -/
def fieldEnd (mark : Option Char) (keepsMark : Bool) : Nat → List Char → Nat
  | 0, _ => 0
  | n + 1, cs =>
    match mark with
    | some m =>
      let inner := (cs.takeWhile (· != m)).length
      let passes := inner < cs.length && (n != 0 || keepsMark)
      let size := if passes then inner + 1 else inner
      size + fieldEnd mark keepsMark n (cs.drop size)
    | none =>
      let size := (cs.takeWhile isBlankChar).length
      let size := size + ((cs.drop size).takeWhile fun c => !isBlankChar c).length
      size + fieldEnd mark keepsMark n (cs.drop size)

/-- The part of a line that a key is. -/
def Key.part (k : Key) (mark : Option Char) (line : List Char) : List Char :=
  let front := dropFields mark (k.field - 1) line
  let front := if k.manner.skipsFront then front.dropWhile isBlankChar else front
  let front := front.drop (k.char - 1)
  let start := line.length - front.length
  match k.last with
  | none => front
  | some (field, char) =>
    let stop := fieldEnd mark (char != 0) (if char = 0 then field else field - 1) line
    let stop := if char = 0 then stop
      else
        let rest := line.drop stop
        let skipped := if k.manner.skipsEnd then (rest.takeWhile isBlankChar).length else 0
        min line.length (stop + skipped + char)
    front.take (stop - start)

/-- What of a key is compared. -/
def Manner.essence (m : Manner) (cs : List Char) : List Char :=
  let cs := if m.isDictionary then cs.filter fun c => c.isAlphanum || isBlankChar c else cs
  let cs := if m.isPrintable then cs.filter fun c => 32 ≤ c.toNat && c.toNat < 127 else cs
  if m.folds then cs.map Char.toUpper else cs

/-- The order of two keys. -/
def Manner.compare (m : Manner) (a b : List Char) : Ordering :=
  let order := m.way.compare (m.essence a) (m.essence b)
  if m.isReversed then order.swap else order

/-- An order of lines. -/
structure LineOrder where
  keys : List Key
  mark : Option Char
  whole : Manner
  /-- Lines with equal keys stay as they are. -/
  isStable : Bool

/-- The order of two lines by their keys. -/
def LineOrder.byKeys (o : LineOrder) (a b : List Char) : Ordering :=
  match o.keys with
  | [] =>
    let trim := fun (cs : List Char) => if o.whole.skipsFront then cs.dropWhile isBlankChar else cs
    o.whole.compare (trim a) (trim b)
  | keys => keys.foldl (fun order k =>
      order.then (k.manner.compare (k.part o.mark a) (k.part o.mark b))) .eq

/-- The order of two lines. -/
def LineOrder.compare (o : LineOrder) (a b : List Char) : Ordering :=
  (o.byKeys a b).then (if o.isStable then .eq
    else
      let order := Way.bytes.compare a b
      if o.whole.isReversed then order.swap else order)

/-- A position in a key: its field, its character and the letters after it; or what is wrong. -/
def positionOf (cs : List Char) (whole : String) (isFirst : Bool) :
    Except String (Nat × Option Nat × List Char × List Char) := do
  let (digits, rest) := cs.span Char.isDigit
  if digits.isEmpty then
    throw ("invalid number " ++ (if isFirst then "at field start" else "after ','") ++
      ": invalid count at start of " ++ Named.quoted (String.ofList cs))
  let field := digitsValue digits
  if field = 0 then
    throw ("field number is zero: invalid field specification " ++ Named.quoted whole)
  let (char, rest) ← match rest with
    | '.' :: rest =>
      let (ds, after) := rest.span Char.isDigit
      if ds.isEmpty then
        throw ("invalid number after '.': invalid count at start of " ++
          Named.quoted (String.ofList rest))
      if isFirst && digitsValue ds = 0 then
        throw ("character offset is zero: invalid field specification " ++ Named.quoted whole)
      pure (some (digitsValue ds), after)
    | rest => pure (none, rest)
  let (letters, rest) := rest.span fun c => c != ','
  return (field, char, letters, rest)

/-- The manner with option letters. -/
def withLetters (letters : List Char) (atEnd : Bool) (whole : String) (m : Manner) :
    Except String Manner :=
  letters.foldlM (fun m c => match m.withLetter atEnd c with
    | some m => .ok m
    | none => .error ("stray character in field spec: invalid field specification " ++
        Named.quoted whole)) m

/-- The key that a text says; a key without letters is compared as whole lines are. -/
def keyOf (text : String) (usual : Manner) : Except String Key := do
  let (field, char, letters, rest) ← positionOf text.toList text true
  let m ← withLetters letters false text {}
  match rest with
  | [] => return ⟨field, char.getD 1, none, if letters.isEmpty then usual else m⟩
  | _ :: rest =>
    let (last, lastChar, lastLetters, _) ← positionOf rest text false
    let m ← withLetters lastLetters true text m
    let isPlain := letters.isEmpty && lastLetters.isEmpty
    return ⟨field, char.getD 1, some (last, lastChar.getD 0), if isPlain then usual else m⟩

/-- Lines without those that are equal to the line before. -/
def dropEqual (same : List Char → List Char → Bool) : List (List Char) → List (List Char)
  | a :: b :: rest =>
    if same a b then dropEqual same (a :: rest) else a :: dropEqual same (b :: rest)
  | lines => lines
termination_by lines => lines.length

/-- The first line that is out of order, with its number. -/
def firstDisorder (isFine : List Char → List Char → Bool) :
    Nat → List (List Char) → Option (Nat × List Char)
  | n, a :: b :: rest => if isFine a b then firstDisorder isFine (n + 1) (b :: rest) else some (n, b)
  | _, _ => none

/-- Say what is wrong with a key, and end. -/
def badKey (text : String) : Act α := do
  complain text
  quit 2

/-- Print lines in order. -/
def sort (_ : Runner) : Program := do
  let known := flags [('b', "ignore-leading-blanks"), ('d', "dictionary-order"),
    ('f', "ignore-case"), ('g', "general-numeric-sort"), ('i', "ignore-nonprinting"),
    ('M', "month-sort"), ('h', "human-numeric-sort"), ('n', "numeric-sort"), ('r', "reverse"),
    ('V', "version-sort"), ('c', "check"), ('C', ""), ('m', "merge"), ('s', "stable"),
    ('u', "unique"), ('z', "zero-terminated")] ++
    valued [('k', "key"), ('o', "output"), ('S', "buffer-size"), ('t', "field-separator"),
      ('T', "temporary-directory")]
  let (o, paths) ← options known 2 false
  let whole := (o.map (·.1)).foldl (fun (m : Manner) c => (m.withLetter false c).getD m) {}
  let mark ← match o.last? 't' with
    | none => pure none
    | some text => match text.toList with
      | [c] => pure (some c)
      | ['\\', '0'] => pure (some '\x00')
      | [] => badKey "empty tab"
      | _ => badKey ("multi-character tab " ++ Named.quoted text)
  let keys ← (o.all 'k').mapM fun text => match keyOf text whole with
    | .ok key => pure key
    | .error fault => badKey fault
  let isUnique := o.has 'u'
  let order : LineOrder :=
    { keys, mark, whole, isStable := o.has 's' || isUnique }
  let ending := if o.has 'z' then '\x00' else '\n'
  let checks := o.has 'c' || o.has 'C'
  let texts ← (if paths.isEmpty then ["-"] else paths).mapM fun path => do
    match ← readOperand path with
    | .ok text => pure text
    | .error (.file .isDirectory) => badKey ("read failed: " ++ Named.shown path ++ ": Is a directory")
    | .error fault =>
      badKey ("cannot read: " ++ Named.shown path ++ ": " ++ fault.text)
  let lines := texts.flatMap fun text => (endedLines ending [] [] text).map fun line =>
    if line.getLast? = some ending then line.dropLast else line
  if checks then
    let isFine := fun (a b : List Char) =>
      if isUnique then decide (order.byKeys a b = .lt) else order.compare a b != .gt
    match firstDisorder isFine 2 lines with
    | none => return 0
    | some (n, line) =>
      if o.has 'c' then
        complain (paths.headD "-" ++ ":" ++ toString n ++ ": disorder: " ++ String.ofList line)
      return 1
  let sorted := lines.mergeSort fun a b => order.compare a b != .gt
  let kept := if isUnique then dropEqual (fun a b => order.byKeys a b = .eq) sorted else sorted
  let text := (kept.map fun line => line ++ [ending]).flatten
  match o.last? 'o' with
  | none => printChars text
  | some path =>
    match ← writePath path text with
    | none => pure ()
    | some fault =>
      complain ("open failed: " ++ Named.shown path ++ ": " ++ fault.text)
      quit 2
  return 0

/-! ## Repeated lines -/

/-- Runs of equal lines. -/
def runsOf (same : List Char → List Char → Bool) :
    List (List Char) → List (List (List Char))
  | [] => []
  | a :: rest =>
    match runsOf same rest with
    | [] => [[a]]
    | [] :: runs => [a] :: runs
    | (b :: run) :: runs => if same a b then (a :: b :: run) :: runs else [a] :: (b :: run) :: runs

/-- Print lines without repeats. -/
def uniq (_ : Runner) : Program := do
  let known := flags [('c', "count"), ('d', "repeated"), ('D', ""), ('i', "ignore-case"),
    ('u', "unique"), ('z', "zero-terminated")] ++
    valued [('f', "skip-fields"), ('s', "skip-chars"), ('w', "check-chars")] ++
    [⟨'D', "all-repeated", .attached, false⟩]
  let (o, paths) ← options known 1 false
  let number := fun (key : Char) (what : String) => do
    match o.last? key with
    | none => pure none
    | some text => match natural? text with
      | some n => pure (some n)
      | none => do
        complain (text ++ ": invalid number of " ++ what)
        quit 1
  let fields ← number 'f' "fields to skip"
  let chars ← number 's' "bytes to skip"
  let width ← number 'w' "bytes to compare"
  let (input, output) ← match paths with
    | [] => pure ("-", none)
    | [input] => pure (input, none)
    | [input, output] => pure (input, some output)
    | _ => extraOperand 1 (paths.getD 2 "")
  let text ← match ← readOperand input with
    | .ok text => pure text
    | .error fault => do
      complain ((if fault = .file .isDirectory then "error reading " ++ Named.quoted input
        else Named.shown input) ++ ": " ++ fault.text)
      quit 1
  let ending := if o.has 'z' then '\x00' else '\n'
  let lines := (endedLines ending [] [] text).map fun line =>
    if line.getLast? = some ending then line.dropLast else line
  let essence := fun (line : List Char) =>
    let rest := dropFields none (fields.getD 0) line
    let rest := rest.drop (chars.getD 0)
    let rest := match width with
      | some n => rest.take n
      | none => rest
    if o.has 'i' then rest.map Char.toUpper else rest
  let runs := runsOf (fun a b => essence a = essence b) lines
  let shown := runs.flatMap fun run =>
    let isRepeated := 1 < run.length
    let isShown := if o.has 'u' && (o.has 'd' || o.has 'D') then false
      else if o.has 'u' then !isRepeated
      else if o.has 'd' || o.has 'D' then isRepeated
      else true
    if !isShown then []
    else if o.has 'D' then run
    else
      let front := if o.has 'c' then (padLeft 7 (toString run.length) ++ " ").toList else []
      [front ++ run.headD []]
  let text := (shown.map fun line => line ++ [ending]).flatten
  match output with
  | none | some "-" => printChars text
  | some path =>
    match ← writePath path text with
    | none => pure ()
    | some fault =>
      complainOf path fault.text
      quit 1
  return 0

/-! ## Orders of pairs -/

/-- Names in an order in which each one comes before those that it must precede; `queue` has those
that nothing is before any more. -/
def settle (pairs : List (String × String)) :
    Nat → List String → List (String × Nat) → List String
  | 0, _, _ => []
  | _, [], _ => []
  | fuel + 1, name :: queue, counts =>
    let after := ((pairs.filter fun p => p.1 = name && p.2 != name).map (·.2)).reverse
    let step := fun (state : List String × List (String × Nat)) (next : String) =>
      let left := (state.2.lookup next).getD 0 - 1
      let counts := state.2.map fun (n, k) => if n = next then (n, left) else (n, k)
      (if left = 0 then state.1 ++ [next] else state.1, counts)
    let (queue, counts) := after.foldl step (queue, counts)
    name :: settle pairs fuel queue counts

/-- Print names in an order that pairs of names ask for. -/
def tsort (_ : Runner) : Program := do
  let (_, paths) ← options [] 1 false
  let path := paths.headD "-"
  match ← readOperand path with
  | .error fault =>
    complainOf path fault.text
    return 1
  | .ok text =>
    let words := ((piecesOf isBlankChar text).filter (!·.isEmpty)).map String.ofList
    if words.length % 2 = 1 then
      complain (path ++ ": input contains an odd number of tokens")
      return 1
    let rec pairUp : List String → List (String × String)
      | a :: b :: rest => (a, b) :: pairUp rest
      | _ => []
    let pairs := pairUp words
    let names := words.eraseDups.mergeSort
    let counts := names.map fun n => (n, (pairs.filter fun p => p.2 = n && p.1 != n).length)
    let first := (counts.filter fun p => p.2 = 0).map (·.1)
    let order := settle pairs (names.length + 1) first counts
    print (String.join (order.map (· ++ "\n")))
    return 0

/-- The programs that put lines in order. -/
def ordering : List (String × (Runner → Program)) :=
  [("sort", sort), ("uniq", uniq), ("tsort", tsort)]

end ScriptedShell.Local.Program
