/-
# Fields

What becomes of a word when everything in it that stands for something else has been replaced: bits,
which are characters with what is known of them.  The fields of bits are what arguments are made of.
-/
import ScriptedShell.Local.Script.Pattern

namespace ScriptedShell.Local.Script

/-- A bit of a word. -/
inductive Bit where
  /-- A character: whether it is quoted, and whether it can set fields apart. -/
  | char (c : Char) (quoted splits : Bool)
  /-- A quote, which makes a field even of nothing. -/
  | mark
  /-- Here one argument ends and the next one begins. -/
  | cut
  /-- Here something begins that was put in; `isWhole` says that it is not set apart by its
  characters. -/
  | border (isWhole : Bool)
  deriving Repr, DecidableEq

namespace Bit

/-- The character of a bit. -/
def char? : Bit → Option Char
  | char c _ _ => some c
  | _ => none

/-- The mark that a bit is in a pattern for paths. -/
def mark? : Bit → Option Mark
  | char c quoted _ => some ⟨c, !quoted⟩
  | _ => none

end Bit

/-- The text of bits. -/
def bitText (bits : List Bit) : String := String.ofList (bits.filterMap Bit.char?)

/-- The marks of bits in a pattern for paths. -/
def bitMarks (bits : List Bit) : List Mark := bits.filterMap Bit.mark?

/-- The marks of bits in a pattern for texts: a backslash that was put in quotes the character after
it. -/
def patternMarks : List Bit → List Mark
  | [] => []
  | .char '\\' false true :: .char c _ _ :: rest => ⟨c, false⟩ :: patternMarks rest
  | .char c quoted _ :: rest => ⟨c, !quoted⟩ :: patternMarks rest
  | _ :: rest => patternMarks rest

/-- The characters that always count as gaps when they set fields apart. -/
def isUsualGap (c : Char) : Bool := c = ' ' || c = '\t' || c = '\n' || c = '\x00'

/-- Fields while they are made. -/
structure Splitting where
  /-- The number of fields that can still be made; the last one takes everything that is left. -/
  left : Option Nat := none
  /-- The bits of the field, the last one first. -/
  field : List Bit := []
  /-- What the last field is cut down to. -/
  short : Option (List Bit) := none
  /-- Whether the last thing was a gap that ended a field. -/
  afterGap : Bool := false
  isWhole : Bool := false
  done : List (List Bit) := []

namespace Splitting

/-- End the field. -/
def close (s : Splitting) : Splitting :=
  { s with field := [], done := s.field.reverse :: s.done }

/-- Go on with a character that can set fields apart, where `isGap` says whether it does. -/
def step (s : Splitting) (isGap : Bool) (b : Bit) (c : Char) : Splitting :=
  let isUsual := isGap && isUsualGap c
  let grown := { s with field := b :: s.field }
  if s.left = some 0 then
    if isUsual then { grown with short := s.short.or (some s.field) }
    else
      { grown with
        short := if isGap && s.afterGap then s.short else none
        afterGap := false }
  else
    let (s, isGap, grown) :=
      if s.afterGap then
        let s := { s with field := [] }
        (s, if isUsual then isGap else false,
          if isGap then s else { s with field := [b] })
      else (s, isGap, grown)
    if s.afterGap && isUsual then s
    else if isGap then
      if s.field.isEmpty && isUsual then { s with afterGap := false }
      else match s.left with
        | some 1 =>
          { grown with left := some 0, short := some s.field, afterGap := isUsual }
        | left => { s.close with left := left.map (· - 1), afterGap := isUsual }
    else { grown with afterGap := false }

/-- Go on with a bit. -/
def feed (ifs : List Char) (s : Splitting) : Bit → Splitting
  | .border isWhole => { s with isWhole, afterGap := false }
  | .cut => { s.close with isWhole := true }
  | .mark => { s with field := .mark :: s.field }
  | .char c quoted true => s.step (c = '\x00' || ifs.elem c) (.char c quoted true) c
  | b => { s with field := b :: s.field }

/-- All fields. -/
def fields (s : Splitting) : List (List Bit) :=
  let last := s.short.getD s.field
  (if last.isEmpty && !s.isWhole then s.done else last.reverse :: s.done).reverse

end Splitting

/-- The fields of bits, set apart by characters. -/
def fieldsOf (ifs : List Char) (limit : Option Nat) (bits : List Bit) : List (List Bit) :=
  (bits.foldl (Splitting.feed ifs) { left := limit }).fields

end ScriptedShell.Local.Script
