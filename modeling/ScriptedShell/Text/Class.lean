/-
# Classes of characters

Ranges of code points, the control characters, and the classes of characters that have names, for
characters that are bytes: from 128 on they are in no class.
-/

namespace ScriptedShell.Text

/-! ## Ranges -/

/-- Whether a character's code point lies in one of the ranges, both ends included. -/
def inRanges (ranges : List (Nat × Nat)) (c : Char) : Bool :=
  ranges.any fun (first, last) => first ≤ c.toNat && c.toNat ≤ last

/-! ## Control characters -/

/-- Whether a character is a control character: below the space, or from U+007F to U+009F. -/
def isControl (c : Char) : Bool := c.toNat < 32 || (127 ≤ c.toNat && c.toNat ≤ 159)

/-- The character that begins a control sequence. -/
def escapeChar : Char := '\x1b'

/-- The bell character, which ends an operating-system command. -/
def bellChar : Char := '\x07'

/-- Whether a character breaks lines. -/
def isLineBreak (c : Char) : Bool := c = '\n' || c = '\r'

/-! ## Named classes -/

/-- A class of characters that has a name. -/
inductive CharClass where
  | alnum
  | alpha
  | blank
  | cntrl
  | digit
  | graph
  | lower
  | print
  | punct
  | space
  | upper
  | xdigit
  deriving Repr, DecidableEq

namespace CharClass

/-- The class with a name. -/
def ofName? : String → Option CharClass
  | "alnum" => some alnum
  | "alpha" => some alpha
  | "blank" => some blank
  | "cntrl" => some cntrl
  | "digit" => some digit
  | "graph" => some graph
  | "lower" => some lower
  | "print" => some print
  | "punct" => some punct
  | "space" => some space
  | "upper" => some upper
  | "xdigit" => some xdigit
  | _ => none

/-- Whether a character can be seen. -/
def isGraph (c : Char) : Bool := 33 ≤ c.toNat && c.toNat ≤ 126

/-- Whether a character is a gap. -/
def isSpace (c : Char) : Bool := c = ' ' || (9 ≤ c.toNat && c.toNat ≤ 13)

/-- Whether a character is in a class. -/
def has (c : Char) : CharClass → Bool
  | alnum => c.isAlphanum
  | alpha => c.isAlpha
  | blank => c = ' ' || c = '\t'
  | cntrl => c.toNat < 32 || c.toNat = 127
  | digit => c.isDigit
  | graph => isGraph c
  | lower => c.isLower
  | print => c = ' ' || isGraph c
  | punct => isGraph c && !c.isAlphanum
  | space => isSpace c
  | upper => c.isUpper
  | xdigit => c.isDigit || ('a' ≤ c && c ≤ 'f') || ('A' ≤ c && c ≤ 'F')

end CharClass

/-- Whether a character is part of a word. -/
def isWordChar (c : Char) : Bool := c.isAlphanum || c = '_'

end ScriptedShell.Text
