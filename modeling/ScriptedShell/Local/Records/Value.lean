/-
# Values

A value is a number or a text, and each can stand for the other.  A text that has been read from
somewhere counts as a number if it looks like one.
-/
import ScriptedShell.Local.Records.Pattern
import ScriptedShell.Number.Arithmetic
import ScriptedShell.Number.Directive

namespace ScriptedShell.Local.Records

open Number

/-- A value. -/
inductive Value where
  /-- The value of a variable that has been given none. -/
  | unset
  | number (q : Quantity)
  | text (s : String)
  /-- A text that has been read. -/
  | input (s : String)
  deriving Repr, DecidableEq

instance : Inhabited Value := ⟨.unset⟩

/-- Whether a character is a gap between fields. -/
def isGap (c : Char) : Bool := c = ' ' || (9 ≤ c.toNat && c.toNat ≤ 13)

/-- The number at the front of a text, or zero. -/
def leadingNumber (s : String) : Quantity :=
  let cs := s.toList
  if !cs.isEmpty && cs.length ≤ 15 && cs.all Char.isDigit then
    Quantity.ofNat (Quantity.digitsAt 10 0 0 cs).1
  else match Quantity.readAt? cs with
    | some (q, _) => Quantity.kept q
    | none => Quantity.zero

/-- The number that a whole text looks like. -/
def wholeNumber? (s : String) : Option Quantity :=
  let cs := (s.toList.dropWhile isGap).reverse.dropWhile isGap |>.reverse
  let begins := cs.head?.any fun c => c.isDigit || c = '.' || c = '-' || c = '+'
  let ends := cs.getLast?.any fun c => c.isDigit || c = '.'
  if begins && ends then
    match Quantity.readAt? cs with
    | some (q, []) => some (Quantity.kept q)
    | _ => none
  else none

/-- A directive of a format with its letter left out: flags, a width and a precision, where stars
stand for arguments. -/
structure Shape where
  flags : List Char := []
  width : Option (Option Nat) := none
  precision : Option (Option Nat) := none

namespace Shape

/-- The number at the front of a text, or a star for an argument. -/
def amountAt (cs : List Char) : Option (Option Nat) × List Char :=
  match cs with
  | '*' :: rest => (some none, rest)
  | cs =>
    let (ds, rest) := cs.span Char.isDigit
    (if ds.isEmpty then none else some (String.ofList ds).toNat?, rest)

/-- The shape after a percent sign, and what follows it; for a text, a point without digits has no
meaning. -/
def readAt (cs : List Char) : Shape × List Char :=
  let (flags, rest) := cs.span fun c => "-+ #0".toList.elem c
  let (width, rest) := amountAt rest
  let (precision, rest) := match rest with
    | '.' :: 's' :: rest => (none, 's' :: rest)
    | '.' :: rest =>
      let (n, rest) := amountAt rest
      (some (n.getD (some 0)), rest)
    | rest => (none, rest)
  (⟨flags, width, precision⟩, rest.dropWhile fun c => c = 'l' || c = 'h' || c = 'L')

end Shape

/-- What is wrong with a format and its values. -/
inductive FormatFault where
  | tooFew
  /-- No value is written like the one with this number. -/
  | improper (n : Nat)
  deriving Repr, DecidableEq

namespace Value

/-! ## Numbers as texts -/

/-- The largest number of 64 bits. -/
def maxWord : Int := Nat.pow 2 64 - 1

/-- A number as a text, where one with a fraction is written as a format says. -/
def numberText (conversion : String) (q : Quantity) : String :=
  let fraction := fun (_ : Unit) =>
    match conversion.toList with
    | '%' :: cs =>
      let (shape, rest) := Shape.readAt cs
      let number := fun (n : Option (Option Nat)) => n.bind id
      match rest with
      | letter :: rest =>
        let d := shape.flags.foldl Directive.withFlag
          { width := (number shape.width).getD 0, precision := number shape.precision, letter }
        let written := if "di".toList.elem letter then d.integerText (q.clamped (1 - Nat.pow 2 63) maxWord)
          else d.quantityText q
        String.ofList (written ++ rest)
      | [] => conversion
    | _ => conversion
  match q.toInt? with
  | some n =>
    if -(Nat.pow 2 63) ≤ n && n ≤ Nat.pow 2 64 then
      let n := min n maxWord
      toString n
    else fraction ()
  | none => fraction ()

/-- The value as a text. -/
def toText (conversion : String) : Value → String
  | unset => ""
  | number q => numberText conversion q
  | text s | input s => s

/-- The value as a number. -/
def toNumber : Value → Quantity
  | unset => Quantity.zero
  | number q => q
  | text s | input s => leadingNumber s

/-- The number that the value counts as, if it counts as one. -/
def asNumber? : Value → Option Quantity
  | unset => some Quantity.zero
  | number q => some q
  | text _ => none
  | input s => wholeNumber? s

/-- Whether the value holds as a condition. -/
def isTrue (v : Value) : Bool :=
  match v with
  | text s => !s.isEmpty
  | v => match v.asNumber? with
    | some q => !q.isZero
    | none => true

/-- The value of a condition. -/
def ofBool (b : Bool) : Value := number (if b then Quantity.ofNat 1 else Quantity.zero)

/-- A number of things as a value. -/
def ofNat (n : Nat) : Value := number (Quantity.ofNat n)

/-- A whole number as a value. -/
def ofInt (n : Int) : Value := number (Quantity.ofInt n)

/-- How two values compare: as numbers if both count as numbers, and as texts otherwise. -/
def order (conversion : String) (a b : Value) : Ordering :=
  match a.asNumber?, b.asNumber? with
  | some p, some q => p.order q
  | _, _ => compare (a.toText conversion) (b.toText conversion)

/-! ## Formats -/

/-- The text of one value in the form that a letter asks for; `none` if there is no such form. -/
def formatted? (conversion : String) (d : Directive) (v : Value) : Option (List Char) :=
  let wide := v.toNumber.clamped (1 - Nat.pow 2 63)
  let bits := fun (_ : Unit) => match v.toNumber with
    | .undefined _ => Nat.pow 2 63
    | q => q.clamped (-(Nat.pow 2 63)) maxWord % Nat.pow 2 64
  match d.letter with
  | 'd' => some (match v.toNumber with
    | .undefined _ => d.integerText (-(Nat.pow 2 63))
    | _ => d.integerText (wide maxWord))
  | 'i' => some (d.integerText (wide (Nat.pow 2 63 - 1)))
  | 'o' | 'x' | 'X' | 'u' => some (d.integerText (bits ()))
  | 'e' | 'f' | 'g' | 'E' | 'G' => some (d.quantityText v.toNumber)
  | 's' => some (d.textOf (v.toText conversion).toList)
  | 'c' =>
    let byte := fun (q : Quantity) =>
      Char.ofNat ((q.clamped (-(Nat.pow 2 31)) (Nat.pow 2 31 - 1)) % 256).toNat
    let one := match v with
      | unset => []
      | number q => [byte q]
      | text s => s.toList.take 1
      | input s => match wholeNumber? s with
        | some q => [byte q]
        | none => s.toList.take 1
    some (d.fill (if one.isEmpty then ['\x00'] else one))
  | _ => none

/-- An amount of a shape, where a star takes a value. -/
def takeAmount (n : Option (Option Nat)) (values : List Value) :
    Except FormatFault (Option Int × List Value) :=
  match n, values with
  | none, values => .ok (none, values)
  | some (some n), values => .ok (some n, values)
  | some none, v :: values => .ok (some (v.toNumber.clamped (-(Nat.pow 2 31)) (Nat.pow 2 31 - 1)), values)
  | some none, [] => .error .tooFew

/-- A format with values put in; a fault comes with what has been written before it. -/
def format (conversion : String) : (fuel number : Nat) → (done : List Char) → List Char →
    List Value → Except (FormatFault × List Char) (List Char)
  | 0, _, done, _, _ => .ok done.reverse
  | _, _, done, [], _ => .ok done.reverse
  | fuel + 1, n, done, '%' :: cs, values =>
    match cs with
    | '%' :: rest => format conversion fuel n ('%' :: done) rest values
    | cs =>
      let (shape, rest) := Shape.readAt cs
      let fail := fun (f : FormatFault) => .error (f, done.reverse)
      if values.isEmpty then fail .tooFew
      else match takeAmount shape.width values with
        | .error f => fail f
        | .ok (width, values) =>
          match takeAmount shape.precision values with
          | .error f => fail f
          | .ok (precision, values) =>
            match rest, values with
            | _, [] => fail .tooFew
            | [], _ => fail (.improper n)
            | letter :: rest, v :: values =>
              let d := shape.flags.foldl Directive.withFlag { letter }
              let d := (d.withWidth (width.getD 0)).withPrecision (precision.getD (-1))
              match formatted? conversion d v with
              | none => fail (.improper n)
              | some written =>
                format conversion fuel (n + 1) (written.reverse ++ done) rest values
  | fuel + 1, n, done, c :: cs, values => format conversion fuel n (c :: done) cs values

end Value

end ScriptedShell.Local.Records
