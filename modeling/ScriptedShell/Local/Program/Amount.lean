/-
# Amounts

Numbers in the arguments of programs: digits, which a letter after them can multiply.
-/
import ScriptedShell.Local.Program.Options

namespace ScriptedShell.Local.Program

/-- The power of a thousand that a letter stands for. -/
def powerOf? (c : Char) : Option Nat :=
  match ['K', 'M', 'G', 'T', 'P', 'E', 'Z', 'Y', 'R', 'Q'].findIdx? (· = c) with
  | some i => some (i + 1)
  | none => if c = 'k' then some 1 else none

/-- What the letters after a number multiply it with. -/
def factorOf? : List Char → Option Nat
  | [] => some 1
  | ['b'] => some 512
  | [c] => (powerOf? c).map (Nat.pow 1024 ·)
  | [c, 'B'] => (powerOf? c).map (Nat.pow 1000 ·)
  | [c, 'i', 'B'] => (powerOf? c).map (Nat.pow 1024 ·)
  | _ => none

/-- The number that a text of digits writes. -/
def natural? (text : String) : Option Nat :=
  let cs := text.toList
  if !cs.isEmpty && cs.all Char.isDigit then text.toNat? else none

/-- The number that digits with letters after them write; no digits stand for one. -/
def amount? (text : String) : Option Nat :=
  let (digits, letters) := text.toList.span Char.isDigit
  if digits.isEmpty && letters.isEmpty then none
  else
    let n := if digits.isEmpty then some 1 else (String.ofList digits).toNat?
    match n, factorOf? letters with
    | some n, some f => some (n * f)
    | _, _ => none

/-- The number of an argument without letters, or an end with a complaint. -/
def natural (text what : String) (status : Nat) : Act Nat :=
  match natural? text with
  | some n => return n
  | none => do
    Act.complain ("invalid " ++ what ++ ": " ++ Text.Named.quoted text)
    Act.quit status

/-- Blanks before a text, up to a width. -/
def padLeft (width : Nat) (text : String) : String :=
  String.ofList (List.replicate (width - text.length) ' ') ++ text

/-- Blanks after a text, up to a width. -/
def padRight (width : Nat) (text : String) : String :=
  text ++ String.ofList (List.replicate (width - text.length) ' ')

end ScriptedShell.Local.Program
