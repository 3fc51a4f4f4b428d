/-
# Scalars of TOML

Booleans, numbers and moments, each written as one word of letters, digits and marks.  Underscores
may stand between digits; whole numbers in base ten do not begin with a zero unless they are zero.
-/
import ScriptedShell.Settings.Document
import ScriptedShell.Settings.Scan
import ScriptedShell.Text.Lines

namespace ScriptedShell.Toml

open Scan Text

/-! ## Numbers -/

/-- Digits of a base with underscores between them, without the underscores. -/
def plainDigits? (base : Nat) (cs : List Char) : Option (List Char) :=
  let groups := splitAtEach (· = '_') cs
  if groups.all fun g => !g.isEmpty && g.all fun c => (digitOf? base c).isSome then
    some groups.flatten
  else none

/-- The number that digits of a base write. -/
def wholeOf? (base : Nat) (cs : List Char) : Option Nat :=
  (plainDigits? base cs).bind (numberOf? base)

/-- A number in base ten, without a zero before other digits. -/
def decimalWhole? (cs : List Char) : Option Nat :=
  match cs with
  | '0' :: _ :: _ => none
  | cs => wholeOf? 10 cs

/-- A sign, and what follows it. -/
def splitSign : List Char → Bool × List Char
  | '-' :: cs => (true, cs)
  | '+' :: cs => (false, cs)
  | cs => (false, cs)

/-- The largest number that is written as an integer. -/
def maxInteger : Int := Nat.pow 2 128 - 1

/-- The smallest number that is written as an integer. -/
def minInteger : Int := -Nat.pow 2 127

/-- An integer. -/
def integer? (cs : List Char) : Option Int :=
  let n : Option Int := match cs with
    | '0' :: 'x' :: ds => (wholeOf? 16 ds).map Int.ofNat
    | '0' :: 'o' :: ds => (wholeOf? 8 ds).map Int.ofNat
    | '0' :: 'b' :: ds => (wholeOf? 2 ds).map Int.ofNat
    | cs =>
      let (negative, ds) := splitSign cs
      (decimalWhole? ds).map fun n => if negative then -(n : Int) else n
  n.filter fun n => minInteger ≤ n && n ≤ maxInteger

/-- The exponent that a text after its letter writes. -/
def exponent? (cs : List Char) : Option Int :=
  let (negative, ds) := splitSign cs
  (wholeOf? 10 ds).map fun n => if negative then -(n : Int) else n

/-- A number with a fraction, an exponent or both: its digits without the dot, and the power of ten
that they are multiplied with. -/
structure Scaled where
  digits : Nat
  power : Int
  deriving Repr, DecidableEq

/-- A number with a fraction, an exponent or both, without its sign. -/
def scaled? (cs : List Char) : Option Scaled := do
  let (mantissa, exponent) := cs.span fun c => c != 'e' && c != 'E'
  let (whole, fraction) := mantissa.span (· != '.')
  if exponent.isEmpty && fraction.isEmpty then none
  let _ ← decimalWhole? whole
  let power ← if exponent.isEmpty then some 0 else exponent? exponent.tail
  let places ← if fraction.isEmpty then some [] else plainDigits? 10 fraction.tail
  let digits ← plainDigits? 10 whole
  return ⟨digitsValue (digits ++ places), power - places.length⟩

/-- The smallest number that is too large for a number of 64 bits: it lies halfway between the
largest of them and the next power of two. -/
def tooLarge : Nat := Nat.pow 2 1024 - Nat.pow 2 970

/-- A power of ten above all numbers of 64 bits. -/
def largestPower : Nat := 310

/-- Whether a number has a place among the numbers of 64 bits.  The first tests keep the powers of
ten small. -/
def Scaled.isBounded (s : Scaled) : Bool :=
  let size : Int := (toString s.digits).length
  if s.digits = 0 || size + s.power < largestPower - 5 then true
  else if largestPower < size + s.power then false
  else if s.power < 0 then s.digits < tooLarge * Nat.pow 10 s.power.natAbs
  else s.digits * Nat.pow 10 s.power.natAbs < tooLarge

/-- Whether a text is a number that is not written as an integer. -/
def isDecimal (cs : List Char) : Bool :=
  let unsigned := (splitSign cs).2
  unsigned = "inf".toList || unsigned = "nan".toList || (scaled? unsigned).any Scaled.isBounded

/-! ## Moments -/

/-- The number that a text of a given count of digits writes, within bounds. -/
def field? (count low high : Nat) (cs : List Char) : Option Nat :=
  if cs.length = count && cs.all Char.isDigit then
    some (digitsValue cs) |>.filter fun n => low ≤ n && n ≤ high
  else none

/-- The days of a month. -/
def daysIn (year month : Nat) : Nat :=
  if month = 2 then
    if (year % 4 = 0 && year % 100 != 0) || year % 400 = 0 then 29 else 28
  else if month = 4 || month = 6 || month = 9 || month = 11 then 30
  else 31

/-- Whether a text is a date. -/
def isDate (cs : List Char) : Bool :=
  match splitAtEach (· = '-') cs with
  | [y, m, d] =>
    match field? 4 0 9999 y, field? 2 1 12 m with
    | some year, some month => (field? 2 1 (daysIn year month) d).isSome
    | _, _ => false
  | _ => false

/-- The number of digits of a fraction of a second that count. -/
def fractionDigits : Nat := 9

/-- A fraction of a second without the digits that do not count and the zeros at its end. -/
def shortFraction (digits : List Char) : List Char :=
  let kept := dropEndWhile (· = '0') (digits.take fractionDigits)
  '.' :: if kept.isEmpty then ['0'] else kept

/-- The seconds of a time, with or without a fraction. -/
def seconds? (cs : List Char) : Option (List Char) :=
  let (whole, fraction) := cs.span (· != '.')
  if (field? 2 0 60 whole).isNone then none
  else if fraction.isEmpty then some whole
  else if fraction.length > 1 && fraction.tail.all Char.isDigit then
    some (whole ++ shortFraction fraction.tail)
  else none

/-- Whether a text is an hour and a minute. -/
def isClock (h m : List Char) : Bool := (field? 2 0 23 h).isSome && (field? 2 0 59 m).isSome

/-- A time, with or without seconds. -/
def time? (cs : List Char) : Option (List Char) :=
  match splitAtEach (· = ':') cs with
  | [h, m] => if isClock h m then some cs else none
  | [h, m, s] =>
    if isClock h m then (seconds? s).map fun s => h ++ ':' :: m ++ ':' :: s else none
  | _ => none

/-- The distance from the time of the zero meridian; without a sign before no distance at all. -/
def offset? (cs : List Char) : Option (List Char) :=
  if cs.length = 6 && (time? cs.tail).isSome then
    some (if cs = "-00:00".toList then "+00:00".toList else cs)
  else none

/-- A time with or without an offset. -/
def zonedTime? (cs : List Char) : Option (List Char) :=
  match cs.reverse with
  | 'Z' :: before | 'z' :: before => (time? before.reverse).map (· ++ ['Z'])
  | _ => do
    let (time, offset) := cs.span fun c => c != '+' && c != '-'
    return (← time? time) ++ (← if offset.isEmpty then some [] else offset? offset)

/-- A moment in full: a date, a time, or a date and a time with a mark between them. -/
def moment? (cs : List Char) : Option (List Char) :=
  if isDate cs then some cs
  else match cs.drop 10 with
    | 'T' :: time | 't' :: time | ' ' :: time =>
      if isDate (cs.take 10) then (zonedTime? time).map fun time => cs.take 10 ++ 'T' :: time
      else time? cs
    | _ => time? cs

/-! ## Words -/

/-- Whether a character can stand in a word. -/
def isWordChar (c : Char) : Bool :=
  c.isAlphanum || c = '_' || c = '+' || c = '-' || c = '.' || c = ':'

/-- The word at the front of a text; a date, a space and a digit go on into a time. -/
def takeWord (cs : List Char) : List Char × List Char :=
  let (word, rest) := stretch isWordChar cs
  match rest with
  | ' ' :: d :: more =>
    if isDate word && d.isDigit then
      let (time, rest) := stretch isWordChar (d :: more)
      (word ++ ' ' :: time, rest)
    else (word, rest)
  | _ => (word, rest)

/-- The value that a word writes. -/
def scalarOf? (word : List Char) : Option Document :=
  if word = "true".toList then some (.bool true)
  else if word = "false".toList then some (.bool false)
  else match integer? word with
    | some n => some (.integer n)
    | none =>
      if isDecimal word then some .decimal
      else (moment? word).map fun written => .moment (String.ofList written)

end ScriptedShell.Toml
