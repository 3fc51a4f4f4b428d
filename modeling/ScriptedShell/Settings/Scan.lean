/-
# Scanning settings files

What the readers of both formats share: readers that take a value off the front of a text, digits,
and characters given by their codes.
-/
import ScriptedShell.Text.Digits

namespace ScriptedShell.Scan

/-- A reader of values of type `α`: the value and the text after it, if there is one. -/
abbrev Reader (α : Type) := List Char → Option (α × List Char)

/-- The text after a text that must stand at the front. -/
def after? : List Char → List Char → Option (List Char)
  | [], cs => some cs
  | x :: xs, c :: cs => if x = c then after? xs cs else none
  | _ :: _, [] => none

/-- The value of a digit of a base up to 16. -/
def digitOf? (base : Nat) (c : Char) : Option Nat :=
  let n := c.toNat
  let value :=
    if '0' ≤ c && c ≤ '9' then some (n - '0'.toNat)
    else if 'a' ≤ c && c ≤ 'f' then some (n - 'a'.toNat + 10)
    else if 'A' ≤ c && c ≤ 'F' then some (n - 'A'.toNat + 10)
    else none
  value.filter (· < base)

/-- The number that digits of a base write, most significant first. -/
def numberOf? (base : Nat) : List Char → Option Nat :=
  List.foldlM (fun n c => (digitOf? base c).map fun d => base * n + d) 0

/-- The number that a given count of hexadecimal digits writes. -/
def hexNumber (count : Nat) : Reader Nat := fun cs =>
  if cs.length < count then none
  else (numberOf? 16 (cs.take count)).map fun n => (n, cs.drop count)

/-- The character with a code, if there is one. -/
def charOf? (code : Nat) : Option Char :=
  if h : code.isValidChar then some (Char.ofNatAux code h) else none

/-- The longest stretch of characters that satisfy `p`, and the text after it. -/
def stretch (p : Char → Bool) (cs : List Char) : List Char × List Char := cs.span p

end ScriptedShell.Scan
