/-
# Directives

How one value is written in a format: a width, a precision and flags say how it is filled up and how
many digits it has.
-/
import ScriptedShell.Number.Quantity

namespace ScriptedShell.Number

/-- How a value is written. -/
structure Directive where
  /-- Filled up at its end. -/
  isLeft : Bool := false
  /-- Filled up with zeros. -/
  hasZeros : Bool := false
  hasPlus : Bool := false
  hasGap : Bool := false
  /-- Written in its longer form. -/
  isLong : Bool := false
  width : Nat := 0
  precision : Option Nat := none
  letter : Char
  deriving Repr, DecidableEq

namespace Directive

/-- The directive with a flag. -/
def withFlag (d : Directive) : Char → Directive
  | '-' => { d with isLeft := true }
  | '0' => { d with hasZeros := true }
  | '+' => { d with hasPlus := true }
  | ' ' => { d with hasGap := true }
  | '#' => { d with isLong := true }
  | _ => d

/-- The directive with a width; a negative one means that the value is filled up at its end. -/
def withWidth (d : Directive) (n : Int) : Directive :=
  { d with isLeft := d.isLeft || n < 0, width := n.natAbs }

/-- The directive with a precision; a negative one is none. -/
def withPrecision (d : Directive) (n : Int) : Directive :=
  { d with precision := if n < 0 then none else some n.toNat }

/-- A text filled up with blanks. -/
def fill (d : Directive) (text : List Char) : List Char :=
  let gap := List.replicate (d.width - text.length) ' '
  if d.isLeft then text ++ gap else gap ++ text

/-- A number filled up after what stands before its digits. -/
def fillNumber (d : Directive) (zeros : Bool) (front digits : List Char) : List Char :=
  if zeros && d.hasZeros && !d.isLeft then
    front ++ List.replicate (d.width - front.length - digits.length) '0' ++ digits
  else d.fill (front ++ digits)

/-- What stands before the digits of a number. -/
def signText (d : Directive) (isNegative : Bool) : List Char :=
  if isNegative then ['-'] else if d.hasPlus then ['+'] else if d.hasGap then [' '] else []

/-- A text, of which a precision says how much is written. -/
def textOf (d : Directive) (text : List Char) : List Char :=
  d.fill (match d.precision with
    | some n => text.take n
    | none => text)

/-- The digits of a whole number, at least as many as the precision says. -/
def digitsOf (d : Directive) (base n : Nat) : List Char :=
  let ds := if n = 0 && d.precision = some 0 then [] else Nat.toDigits base n
  List.replicate (d.precision.getD 1 - ds.length) '0' ++ ds

/-- A whole number of 64 bits. -/
def integerText (d : Directive) (n : Int) : List Char :=
  let bits := (n % Nat.pow 2 64).toNat
  let zeros := d.precision.isNone
  match d.letter with
  | 'o' =>
    let ds := d.digitsOf 8 bits
    d.fillNumber zeros [] (if d.isLong && ds.head? != some '0' then '0' :: ds else ds)
  | 'x' => d.fillNumber zeros (if d.isLong && bits != 0 then ['0', 'x'] else []) (d.digitsOf 16 bits)
  | 'X' =>
    d.fillNumber zeros (if d.isLong && bits != 0 then ['0', 'X'] else [])
      ((d.digitsOf 16 bits).map Char.toUpper)
  | 'u' => d.fillNumber zeros [] (d.digitsOf 10 bits)
  | _ => d.fillNumber zeros (d.signText (n < 0)) (d.digitsOf 10 n.natAbs)

/-- The binary digits of a fraction as one digit, a point and hexadecimal digits, with a power of
two. -/
def binaryText (places : Option Nat) (keepsPoint : Bool) (num den : Nat) : List Char :=
  if num = 0 then
    let zeros := List.replicate (places.getD 0) '0'
    "0x0".toList ++ (if zeros.isEmpty && !keepsPoint then [] else '.' :: zeros) ++ "p+0".toList
  else
    let size : Int := (num.log2 : Int) - den.log2
    let reaches := if 0 ≤ size then den * Nat.pow 2 size.toNat ≤ num else den ≤ num * Nat.pow 2 (-size).toNat
    let power := if reaches then size else size - 1
    let exact : Nat := 13
    let n := fun (k : Nat) =>
      let shift : Int := 4 * k - power
      if 0 ≤ shift then Number.nearest (num * Nat.pow 2 shift.toNat) den
      else Number.nearest num (den * Nat.pow 2 (-shift).toNat)
    let k := places.getD exact
    let ds := Nat.toDigits 16 (n k)
    let (lead, rest) := ds.splitAt (ds.length - k)
    let rest := if places.isNone then (rest.reverse.dropWhile (· = '0')).reverse else rest
    "0x".toList ++ lead ++ (if rest.isEmpty && !keepsPoint then [] else '.' :: rest) ++
      'p' :: (if power < 0 then '-' else '+') :: Nat.toDigits 10 power.natAbs

/-- A number with a fraction. -/
def quantityText (d : Directive) (q : Quantity) : List Char :=
  let sign := d.signText q.isNegative
  let raise := fun (cs : List Char) => if d.letter.isUpper then cs.map Char.toUpper else cs
  match q with
  | .infinite _ => d.fill (raise (sign ++ "inf".toList))
  | .undefined _ => d.fill (raise (sign ++ "nan".toList))
  | .finite _ num den =>
    let places := d.precision.getD 6
    let text := match d.letter.toLower with
      | 'e' => Quantity.scientificText places d.isLong num den
      | 'f' => Quantity.fixedText places d.isLong num den
      | 'a' => binaryText d.precision d.isLong num den
      | _ => Quantity.generalText places d.isLong num den
    d.fillNumber true sign (raise text)

end Directive

end ScriptedShell.Number
