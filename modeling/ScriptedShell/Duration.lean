/-
# Durations

A length of time in whole nanoseconds, shown in the largest of the units s, ms, µs and ns that it
fills at least once, with as many decimals as it needs.
-/

namespace ScriptedShell

/-- A length of time. -/
structure Duration where
  nanoseconds : Nat
  deriving Repr, DecidableEq

namespace Duration

/-- So many seconds. -/
def ofSeconds (n : Nat) : Duration := ⟨n * 1000000000⟩

/-- So many milliseconds. -/
def ofMilliseconds (n : Nat) : Duration := ⟨n * 1000000⟩

/-- The whole seconds of a duration. -/
def seconds (d : Duration) : Nat := d.nanoseconds / 1000000000

/-- The whole milliseconds of a duration. -/
def milliseconds (d : Duration) : Nat := d.nanoseconds / 1000000

/-- The decimals of `rest` as a part of ten to the power `places`, without zeros at the end. -/
def decimals (rest places : Nat) : List Char :=
  let digits := Nat.toDigits 10 rest
  let filled := List.replicate (places - digits.length) '0' ++ digits
  (filled.reverse.dropWhile (· = '0')).reverse

/-- A number of nanoseconds in a unit of ten to the power `places` nanoseconds. -/
def inUnit (n places : Nat) (unit : String) : String :=
  let tail := decimals (n % Nat.pow 10 places) places
  let fraction := if tail.isEmpty then "" else "." ++ String.ofList tail
  toString (n / Nat.pow 10 places) ++ fraction ++ unit

/-- A duration in the largest unit that it fills. -/
def text (d : Duration) : String :=
  let n := d.nanoseconds
  if 1000000000 ≤ n then inUnit n 9 "s"
  else if 1000000 ≤ n then inUnit n 6 "ms"
  else if 1000 ≤ n then inUnit n 3 "µs"
  else inUnit n 0 "ns"

end Duration

end ScriptedShell
