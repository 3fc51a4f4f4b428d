/-
# Calculating with quantities

Sums, products and the other operations on the numbers that a machine keeps in 64 bits: each result
is the exact one, rounded.  Roots, powers with fractions and the functions of angles are those of the
machine itself.
-/
import ScriptedShell.Number.Quantity

namespace ScriptedShell.Number.Quantity

/-! ## Forms -/

/-- A fraction without a factor that its two numbers share. -/
def reduced : Quantity → Quantity
  | finite isNegative num den =>
    let g := Nat.gcd num den
    if g ≤ 1 then finite isNegative num den else finite isNegative (num / g) (den / g)
  | q => q

/-- The number as 64 bits keep it; small whole numbers are kept as they are. -/
def kept : Quantity → Quantity
  | finite isNegative num den =>
    if den = 1 && num < Nat.pow 2 53 then finite isNegative num den
    else reduced (rounded double (finite isNegative num den))
  | q => q

/-- Zero. -/
def zero : Quantity := finite false 0 1

/-- A number of things. -/
def ofNat (n : Nat) : Quantity := finite false n 1

/-- The result of an operation that has none. -/
def nothing : Quantity := undefined true

/-- A fraction of whole numbers, with a sign. -/
def ofFraction (num : Int) (den : Nat) : Quantity := kept (finite (num < 0) num.natAbs den)

/-- The number with another sign. -/
def negated : Quantity → Quantity
  | finite isNegative num den => finite (!isNegative) num den
  | infinite isNegative => infinite (!isNegative)
  | undefined isNegative => undefined (!isNegative)

/-- The number above the line of a fraction, with its sign. -/
def signed (isNegative : Bool) (num : Nat) : Int := if isNegative then -(num : Int) else num

/-- Whether the number is zero. -/
def isZero : Quantity → Bool
  | finite _ num _ => num = 0
  | _ => false

/-- The whole number that the number is. -/
def toInt? : Quantity → Option Int
  | finite isNegative num den => if num % den = 0 then some (signed isNegative (num / den)) else none
  | _ => none

/-- The number without its fraction. -/
def truncated : Quantity → Quantity
  | finite isNegative num den => finite (isNegative && den ≤ num) (num / den) 1
  | q => q

/-- The number without its fraction, between two limits. -/
def clamped (low high : Int) : Quantity → Int
  | finite isNegative num den => max low (min high (signed isNegative (num / den)))
  | infinite isNegative => if isNegative then low else high
  | undefined _ => low

/-! ## Order -/

/-- How two numbers compare; what is no number is like every other. -/
def order : Quantity → Quantity → Ordering
  | undefined _, _ | _, undefined _ => .eq
  | infinite a, infinite b => if a = b then .eq else if a then .lt else .gt
  | infinite a, _ => if a then .lt else .gt
  | _, infinite b => if b then .gt else .lt
  | finite a num den, finite b num' den' =>
    compare (signed a (num * den')) (signed b (num' * den))

/-! ## Operations -/

/-- The sum. -/
def add : Quantity → Quantity → Quantity
  | undefined s, _ | _, undefined s => undefined s
  | infinite a, infinite b => if a = b then infinite a else nothing
  | infinite a, _ | _, infinite a => infinite a
  | finite a num den, finite b num' den' =>
    let sum := signed a (num * den') + signed b (num' * den)
    if sum = 0 then finite (a && b) 0 1 else ofFraction sum (den * den')

/-- The difference. -/
def sub (a b : Quantity) : Quantity :=
  match b with
  | undefined s => add a (undefined s)
  | b => add a b.negated

/-- The product. -/
def mul : Quantity → Quantity → Quantity
  | undefined s, _ | _, undefined s => undefined s
  | infinite a, infinite b => infinite (a != b)
  | infinite a, finite b num _ | finite b num _, infinite a =>
    if num = 0 then nothing else infinite (a != b)
  | finite a num den, finite b num' den' => kept (finite (a != b) (num * num') (den * den'))

/-- The quotient. -/
def div : Quantity → Quantity → Quantity
  | undefined s, _ | _, undefined s => undefined s
  | infinite _, infinite _ => nothing
  | infinite a, finite b _ _ => infinite (a != b)
  | finite a _ _, infinite b => finite (a != b) 0 1
  | finite a num den, finite b num' den' =>
    if num' = 0 then if num = 0 then nothing else infinite (a != b)
    else kept (finite (a != b) (num * den') (den * num'))

/-- What is left after a division without a fraction. -/
def rest : Quantity → Quantity → Quantity
  | undefined s, _ | _, undefined s => undefined s
  | infinite _, _ => nothing
  | a, infinite _ => a
  | finite a num den, finite _ num' den' =>
    if num' = 0 then nothing
    else kept (reduced (finite a ((num * den') % (num' * den)) (den * den')))

/-! ## Operations of the machine -/

/-- The number as the machine has it. -/
def toFloat : Quantity → Float
  | finite isNegative num den =>
    let (m, e) := double.round num den
    let x := Float.scaleB (Float.ofNat m) e
    if isNegative then -x else x
  | infinite isNegative => if isNegative then -1.0 / 0.0 else 1.0 / 0.0
  | undefined _ => 0.0 / 0.0

/-- The number that 64 bits of the machine stand for. -/
def ofBits (bits : Nat) : Quantity :=
  let isNegative := Nat.pow 2 63 ≤ bits
  let power := bits / Nat.pow 2 52 % 2048
  let fraction := bits % Nat.pow 2 52
  if power = 2047 then if fraction = 0 then infinite isNegative else undefined isNegative
  else
    let m := if power = 0 then fraction else fraction + Nat.pow 2 52
    let e : Int := (max power 1 : Nat) - 1075
    reduced (scaled isNegative m 2 e)

/-- A result of the machine. -/
def ofFloat (x : Float) : Quantity :=
  if x.isNaN then nothing else ofBits x.toBits.toNat

/-- A function of the machine. -/
def through (f : Float → Float) (q : Quantity) : Quantity :=
  match q with
  | undefined s => undefined s
  | q => ofFloat (f q.toFloat)

/-- The largest power that is found by multiplying. -/
def maxExactPower : Nat := 1100

/-- The power. -/
def pow (a b : Quantity) : Quantity :=
  match a, b.toInt? with
  | finite s num den, some n =>
    if num = 0 || maxExactPower < n.natAbs then ofFloat (Float.pow a.toFloat b.toFloat)
    else
      let isNegative := s && n % 2 != 0
      let k := n.natAbs
      if 0 ≤ n then kept (finite isNegative (Nat.pow num k) (Nat.pow den k))
      else kept (finite isNegative (Nat.pow den k) (Nat.pow num k))
  | _, _ => ofFloat (Float.pow a.toFloat b.toFloat)

end ScriptedShell.Number.Quantity
