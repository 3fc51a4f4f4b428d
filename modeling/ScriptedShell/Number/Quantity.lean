/-
# Quantities

Numbers with fractions as programs read and write them: fractions of whole numbers, which are
rounded to as many binary digits as a machine has for them, and written with as many decimal digits
as are asked for.  A tie goes to the even neighbour.
-/
import ScriptedShell.Text.Digits

namespace ScriptedShell.Number

/-- A number that a program works with. -/
inductive Quantity where
  /-- The fraction of two whole numbers, the second of which is not zero. -/
  | finite (isNegative : Bool) (num den : Nat)
  | infinite (isNegative : Bool)
  | undefined (isNegative : Bool)
  deriving Repr, DecidableEq

instance : Inhabited Quantity := ⟨.finite false 0 1⟩

/-- The whole number that is next to a fraction; a tie goes to the even one. -/
def nearest (num den : Nat) : Nat :=
  let q := num / den
  let twice := 2 * (num % den)
  if twice < den || (twice = den && q % 2 = 0) then q else q + 1

/-- How a machine keeps numbers: how many binary digits, and the smallest and the largest power of
two that can stand beside them. -/
structure Precision where
  digits : Nat
  lowest : Int
  highest : Int

/-- Numbers of 64 bits. -/
def double : Precision := ⟨53, -1074, 971⟩

/-- Numbers of 80 bits. -/
def extended : Precision := ⟨64, -16445, 16320⟩

/-- A fraction in binary digits: a whole number, and the power of two that it is multiplied with. -/
def Precision.round (p : Precision) (num den : Nat) : Nat × Int :=
  if num = 0 then (0, 0)
  else
    let size : Int := (num.log2 : Int) - den.log2
    let guess := max (size - p.digits) p.lowest
    let scaled := fun (e : Int) =>
      if 0 ≤ e then nearest num (den * Nat.pow 2 e.toNat) else nearest (num * Nat.pow 2 (-e).toNat) den
    let m := scaled guess
    if m < Nat.pow 2 p.digits then (m, guess)
    else
      let m := scaled (guess + 1)
      if m < Nat.pow 2 p.digits then (m, guess + 1) else (m / 2, guess + 2)

namespace Quantity

/-- The number as a machine keeps it. -/
def rounded (p : Precision) : Quantity → Quantity
  | finite isNegative num den =>
    let (m, e) := p.round num den
    if p.highest < e then infinite isNegative
    else if 0 ≤ e then finite isNegative (m * Nat.pow 2 e.toNat) 1
    else finite isNegative m (Nat.pow 2 (-e).toNat)
  | q => q

/-- Whether the number is less than zero, or a zero of that side. -/
def isNegative : Quantity → Bool
  | finite n _ _ | infinite n | undefined n => n

/-- A whole number. -/
def ofInt (n : Int) : Quantity := finite (n < 0) n.natAbs 1

/-! ## Reading -/

/-- Digits in a base at the front of a text: their value, their number, and what follows them. -/
def digitsAt (base : Nat) (value count : Nat) : List Char → Nat × Nat × List Char
  | [] => (value, count, [])
  | c :: cs =>
    let d :=
      if c.isDigit then c.toNat - '0'.toNat
      else if 'a' ≤ c && c ≤ 'f' then c.toNat - 'a'.toNat + 10
      else if 'A' ≤ c && c ≤ 'F' then c.toNat - 'A'.toNat + 10
      else base
    if d < base then digitsAt base (base * value + d) (count + 1) cs else (value, count, c :: cs)

/-- The largest power that is looked at. -/
def maxPower : Nat := 20000

/-- The power after its letter at the front of a text, and what follows it; a letter without digits
is none. -/
def powerAt (letter : Char) (cs : List Char) : Int × List Char :=
  match cs with
  | c :: rest =>
    if c.toLower = letter then
      let (isDown, digits) := match rest with
        | '-' :: ds => (true, ds)
        | '+' :: ds => (false, ds)
        | ds => (false, ds)
      match digitsAt 10 0 0 digits with
      | (_, 0, _) => (0, cs)
      | (n, _, rest) => let n := min n maxPower; (if isDown then -(n : Int) else n, rest)
    else (0, cs)
  | [] => (0, [])

/-- A fraction with a power of a base. -/
def scaled (isNegative : Bool) (m base : Nat) (e : Int) : Quantity :=
  if 0 ≤ e then finite isNegative (m * Nat.pow base e.toNat) 1
  else finite isNegative m (Nat.pow base (-e).toNat)

/-- The digits of a number with a point in it, in a base: their value, how many follow the point, and
what follows them; `none` if there are none. -/
def pointAt? (base : Nat) (cs : List Char) : Option (Nat × Nat × List Char) :=
  let (value, whole, rest) := digitsAt base 0 0 cs
  match rest with
  | '.' :: after =>
    let (value, places, rest) := digitsAt base value 0 after
    if whole + places = 0 then none else some (value, places, rest)
  | rest => if whole = 0 then none else some (value, 0, rest)

/-- Whether a text begins with a word in small letters, in any case. -/
def beginsWith (word : String) (cs : List Char) : Bool :=
  (cs.take word.length).map Char.toLower = word.toList

/-- The number at the front of a text without a sign, and what follows it. -/
def unsignedAt? (isNegative : Bool) (cs : List Char) : Option (Quantity × List Char) :=
  let hex := match cs with
    | '0' :: x :: rest => if x.toLower = 'x' then pointAt? 16 rest else none
    | _ => none
  match hex with
  | some (m, places, rest) =>
    let (e, rest) := powerAt 'p' rest
    some (scaled isNegative m 2 (e - 4 * places), rest)
  | none =>
    match pointAt? 10 cs with
    | some (m, places, rest) =>
      let (e, rest) := powerAt 'e' rest
      some (scaled isNegative m 10 (e - places), rest)
    | none =>
      if beginsWith "infinity" cs then some (infinite isNegative, cs.drop 8)
      else if beginsWith "inf" cs then some (infinite isNegative, cs.drop 3)
      else if beginsWith "nan" cs then some (undefined isNegative, cs.drop 3)
      else none

/-- The number at the front of a text, with blanks and a sign before it, and what follows it. -/
def readAt? (cs : List Char) : Option (Quantity × List Char) :=
  match cs.dropWhile fun c => c = ' ' || (9 ≤ c.toNat && c.toNat ≤ 13) with
  | '-' :: cs => unsignedAt? true cs
  | '+' :: cs => unsignedAt? false cs
  | cs => unsignedAt? false cs

/-! ## Writing -/

/-- Digits with zeros before them, up to a number of digits. -/
def paddedDigits (count n : Nat) : List Char :=
  let ds := Nat.toDigits 10 n
  List.replicate (count - ds.length) '0' ++ ds

/-- Digits with a point before the last ones of them. -/
def withPoint (places : Nat) (keepsPoint : Bool) (n : Nat) : List Char :=
  let ds := paddedDigits (places + 1) n
  let (whole, fraction) := ds.splitAt (ds.length - places)
  if places = 0 && !keepsPoint then whole else whole ++ '.' :: fraction

/-- A fraction with a number of digits after the point. -/
def fixedText (places : Nat) (keepsPoint : Bool) (num den : Nat) : List Char :=
  withPoint places keepsPoint (nearest (num * Nat.pow 10 places) den)

/-- The power of ten that is no larger than a fraction, where the next one is larger. -/
def leadingPower (num den : Nat) : Int :=
  let guess : Int := ((Nat.toDigits 10 num).length : Int) - (Nat.toDigits 10 den).length
  let reaches := if 0 ≤ guess then den * Nat.pow 10 guess.toNat ≤ num else den ≤ num * Nat.pow 10 (-guess).toNat
  if reaches then guess else guess - 1

/-- A fraction in as many digits as are asked for after the first one: the digits, and the power of
ten of the first one. -/
def leadingDigits (places : Nat) (num den : Nat) : Nat × Int :=
  if num = 0 then (0, 0)
  else
    let power := leadingPower num den
    let shift : Int := places - power
    let n := if 0 ≤ shift then nearest (num * Nat.pow 10 shift.toNat) den
      else nearest num (den * Nat.pow 10 (-shift).toNat)
    if n < Nat.pow 10 (places + 1) then (n, power) else (n / 10, power + 1)

/-- A power as it stands after its letter. -/
def powerText (e : Int) : List Char :=
  (if e < 0 then '-' else '+') :: paddedDigits 2 e.natAbs

/-- A fraction as one digit, a point and more digits, with a power of ten. -/
def scientificText (places : Nat) (keepsPoint : Bool) (num den : Nat) : List Char :=
  let (n, power) := leadingDigits places num den
  withPoint places keepsPoint n ++ 'e' :: powerText power

/-- A text with a point, without zeros at its end. -/
def dropZeros (cs : List Char) : List Char :=
  if cs.elem '.' then
    let kept := cs.reverse.dropWhile (· = '0')
    (if kept.head? = some '.' then kept.tail else kept).reverse
  else cs

/-- A fraction in a number of digits that matter, with a power only where it is very large or very
small. -/
def generalText (digits : Nat) (keepsZeros : Bool) (num den : Nat) : List Char :=
  let digits := max digits 1
  let (n, power) := leadingDigits (digits - 1) num den
  if -4 ≤ power && power < digits then
    let text := fixedText (digits - 1 - power).toNat keepsZeros num den
    if keepsZeros then text else dropZeros text
  else
    let text := withPoint (digits - 1) keepsZeros n
    (if keepsZeros then text else dropZeros text) ++ 'e' :: powerText power

end Quantity

end ScriptedShell.Number
