/-
# Regular expressions

A regular expression stands for stretches of a text.  Groups remember the stretches that they stand
for, and a later part can ask for the same text again.
-/
import ScriptedShell.Text.Class

namespace ScriptedShell

open Text

/-- A member of a set of characters. -/
inductive CharMember where
  | range (low high : Char)
  | named (c : CharClass)
  deriving Repr, DecidableEq

/-- Whether a member stands for a character. -/
def CharMember.has (c : Char) : CharMember → Bool
  | range low high => low ≤ c && c ≤ high
  | named n => n.has c

/-- A set of characters. -/
structure CharSet where
  members : List CharMember
  /-- Whether the set holds the characters that no member stands for. -/
  isInverted : Bool := false
  deriving Repr, DecidableEq

namespace CharSet

/-- Whether a character is in the set. -/
def has (s : CharSet) (c : Char) : Bool := s.members.any (CharMember.has c) != s.isInverted

/-- The set of all characters. -/
def all : CharSet := ⟨[], true⟩

/-- The set of one character. -/
def single (c : Char) : CharSet := { members := [.range c c] }

/-- The characters of words, or those that are in no word. -/
def word (isInverted : Bool) : CharSet := ⟨[.named .alnum, .range '_' '_'], isInverted⟩

/-- The gaps, or everything else. -/
def gap (isInverted : Bool) : CharSet := ⟨[.named .space], isInverted⟩

end CharSet

/-- A place between two characters that can be asked for. -/
inductive Edge where
  | lineStart
  | lineEnd
  | textStart
  | textEnd
  | wordStart
  | wordEnd
  | word
  | noWord
  deriving Repr, DecidableEq

/-- A regular expression. -/
inductive Regex where
  | empty
  | oneOf (set : CharSet)
  | edge (e : Edge)
  | cat (a b : Regex)
  /-- The first one is preferred. -/
  | either (a b : Regex)
  /-- Repeated as often as possible, at least and at most some number of times. -/
  | repeated (a : Regex) (least : Nat) (most : Option Nat)
  | group (n : Nat) (a : Regex)
  /-- The text of a group once more. -/
  | again (n : Nat)
  deriving Repr, DecidableEq

namespace Regex

/-- The expression of one character. -/
def char (c : Char) : Regex := .oneOf (.single c)

/-- The expression of a text. -/
def text (cs : List Char) : Regex := cs.foldr (fun c r => .cat (char c) r) .empty

/-- Whether the text of a group is asked for once more. -/
def refers : Regex → Bool
  | .empty | .oneOf _ | .edge _ => false
  | .cat a b | .either a b => a.refers || b.refers
  | .repeated a _ _ | .group _ a => a.refers
  | .again _ => true

/-- The number of groups. -/
def groupCount : Regex → Nat
  | .empty | .oneOf _ | .edge _ | .again _ => 0
  | .cat a b | .either a b => max a.groupCount b.groupCount
  | .repeated a _ _ => a.groupCount
  | .group n a => max n a.groupCount

end Regex

end ScriptedShell
