/-
# Braces

A word with braces stands for several words: one for each of the alternatives between them, or for
each member of a sequence from one number or letter to another.  What stands before and after the
braces belongs to each of the words.
-/
import ScriptedShell.Local.Script.Assignment
import ScriptedShell.Text.Digits

namespace ScriptedShell.Local.Script

open Text

namespace Braces

/-! ## Sequences -/

/-- The texts that two points set apart. -/
def pointed (text : List Char) : List (List Char) :=
  (go text).1 :: (go text).2
where
  /-- The text up to the first two points, and the others. -/
  go : List Char → List Char × List (List Char)
    | [] => ([], [])
    | '.' :: '.' :: cs => ([], (go cs).1 :: (go cs).2)
    | c :: cs => (c :: (go cs).1, (go cs).2)

/-- The whole number that a text writes. -/
def integer? (text : List Char) : Option Int :=
  let (isNegative, digits) := match text with
    | '-' :: digits => (true, digits)
    | '+' :: digits => (false, digits)
    | digits => (false, digits)
  if digits.isEmpty || !digits.all Char.isDigit then none
  else
    let n : Int := digitsValue digits
    some (if isNegative then -n else n)

/-- Whether a number is written with zeros before it. -/
def isPadded (text : List Char) : Bool :=
  match text with
  | '-' :: '0' :: _ :: _ | '0' :: _ :: _ => true
  | _ => false

/-- The numbers from one to another by steps of some size. -/
def steps (first last : Int) (step : Nat) : List Int :=
  let step := max step 1
  let count := (last - first).natAbs / step + 1
  (List.range count).map fun (i : Nat) =>
    if first ≤ last then first + (i * step : Nat) else first - (i * step : Nat)

/-- A number in at least so many characters, with zeros before its digits. -/
def padded (width : Nat) (n : Int) : List Char :=
  let digits := (toString n.natAbs).toList
  let sign := if n < 0 then ['-'] else []
  sign ++ List.replicate (width - digits.length - sign.length) '0' ++ digits

/-- The texts of a sequence: from one number or letter to another, with the size of its steps. -/
def sequence? (text : List Char) : Option (List (List Char)) := do
  let (first, last, step) ← match pointed text with
    | [first, last] => some (first, last, 1)
    | [first, last, step] => (integer? step).map fun n => (first, last, n.natAbs)
    | _ => none
  match first, last, integer? first, integer? last with
  | _, _, some m, some n =>
    let width := if isPadded first || isPadded last then max first.length last.length else 0
    some ((steps m n step).map (padded width))
  | [a], [b], none, none =>
    if a.isAlpha && b.isAlpha then
      some ((steps a.toNat b.toNat step).map fun n => [Char.ofNat n.toNat])
    else none
  | _, _, _, _ => none

/-! ## Alternatives -/

/-- The alternatives up to the closing brace, set apart by commas, and the pieces after it: `depth`
braces inside are open, and the alternative that is read and those before it are given, the last
piece of each and the last of them first. -/
def alternatives : (depth : Nat) → (part : Word) → (done : List Word) → Word →
    Option (List Word × Word)
  | _, _, _, [] => none
  | depth, part, done, .char c false :: rest =>
    let piece := Piece.char c false
    if c = '\x7b' then alternatives (depth + 1) (piece :: part) done rest
    else if c = '\x7d' then
      match depth with
      | 0 => some ((part.reverse :: done).reverse, rest)
      | depth + 1 => alternatives depth (piece :: part) done rest
    else if c = ',' && depth = 0 then alternatives 0 [] (part.reverse :: done) rest
    else alternatives depth (piece :: part) done rest
  | depth, part, done, piece :: rest => alternatives depth (piece :: part) done rest

/-- What the braces at the front of pieces stand for, after the opening one, and what follows. -/
def choices? (pieces : Word) : Option (List Word × Word) :=
  match alternatives 0 [] [] pieces with
  | some ([only], rest) =>
    ((plainText? only).bind fun text => sequence? text.toList).map fun texts =>
      (texts.map fun cs => cs.map fun c => .char c false, rest)
  | found => found

/-- The pieces before the first braces that stand for something, what they stand for, and the pieces
after them. -/
def split? : (before : Word) → Word → Option (Word × List Word × Word)
  | _, [] => none
  | before, piece :: rest =>
    match if piece.isPlain '\x7b' then choices? rest else none with
    | some (choices, after) => some (before.reverse, choices, after)
    | none => split? (piece :: before) rest

/-- The words that a word with braces stands for; the number bounds how many braces it has. -/
def expand : Nat → Word → List Word
  | 0, word => [word]
  | fuel + 1, word =>
    match split? [] word with
    | none => [word]
    | some (before, choices, after) =>
      let middles := choices.flatMap (expand fuel)
      let ends := expand fuel after
      middles.flatMap fun middle => ends.map fun rest => before ++ middle ++ rest

end Braces

/-- The words that a word stands for because of its braces, in a language. -/
def bracedWords (dialect : Dialect) (word : Word) : List Word :=
  match dialect with
  | .standard => [word]
  | .extended => Braces.expand (word.length + 1) word

end ScriptedShell.Local.Script
