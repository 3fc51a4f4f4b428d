/-
# Patterns

Characters of a word that are not quoted can stand for others: a star for any text, a question mark
for any character, and brackets for the characters between them.  A pattern stands for texts, for
stretches at the ends of texts, and for paths of files.
-/
import ScriptedShell.Files.Tree
import ScriptedShell.Text.Octets

namespace ScriptedShell.Local.Script

open Files Text

/-- A character of a pattern, and whether it can stand for others. -/
structure Mark where
  char : Char
  isWild : Bool
  deriving Repr, DecidableEq, Inhabited

/-- The text of marks. -/
def markText (marks : List Mark) : String := String.ofList (marks.map (·.char))

/-! ## Brackets -/

/-- The classes of characters that have names. -/
def classOf? (name : String) : Option (Char → Bool) :=
  let isGraph := fun (c : Char) => 33 ≤ c.toNat && c.toNat ≤ 126
  let isSpace := fun (c : Char) => c = ' ' || (9 ≤ c.toNat && c.toNat ≤ 13)
  match name with
  | "alnum" => some Char.isAlphanum
  | "alpha" => some Char.isAlpha
  | "blank" => some fun c => c = ' ' || c = '\t'
  | "cntrl" => some fun c => c.toNat < 32 || c.toNat = 127
  | "digit" => some Char.isDigit
  | "graph" => some isGraph
  | "lower" => some Char.isLower
  | "print" => some fun c => c = ' ' || isGraph c
  | "punct" => some fun c => isGraph c && !c.isAlphanum
  | "space" => some isSpace
  | "upper" => some Char.isUpper
  | "xdigit" => some fun c => c.isDigit || ('a' ≤ c && c ≤ 'f') || ('A' ≤ c && c ≤ 'F')
  | _ => none

/-- A member of brackets. -/
inductive Member where
  | range (low high : Char)
  | named (has : Char → Bool)

/-- The number of a byte where those from 128 on come before all others. -/
def signedCode (c : Char) : Int := if c.toNat < 128 then c.toNat else (c.toNat : Int) - 256

/-- Whether a member stands for a character. -/
def Member.has (c : Char) : Member → Bool
  | range low high => signedCode low ≤ signedCode c && signedCode c ≤ signedCode high
  | named has => has c

/-- The class that is named at the front of marks after an opening bracket, and the marks after
it. -/
def namedClass? (marks : List Mark) : Option ((Char → Bool) × List Mark) :=
  match marks with
  | ⟨':', true⟩ :: rest =>
    match rest.span fun m => m.char.isAlpha with
    | (name, ⟨':', true⟩ :: ⟨']', true⟩ :: rest) =>
      (classOf? (markText name)).map fun has => (has, rest)
    | _ => none
  | _ => none

/-- The members of brackets up to the closing one, and the marks after it.  The first mark is a
member in any case. -/
def members (fuel : Nat) (isFirst : Bool) (marks : List Mark) : Option (List Member × List Mark) :=
  match fuel, marks with
  | 0, _ | _, [] => none
  | fuel + 1, m :: rest =>
    if m = ⟨']', true⟩ && !isFirst then some ([], rest)
    else
      let named := if m = ⟨'[', true⟩ then namedClass? rest else none
      match named, rest with
      | some (has, rest), _ =>
        (members fuel false rest).map fun (more, rest) => (.named has :: more, rest)
      | none, ⟨'-', true⟩ :: high :: rest =>
        if high = ⟨']', true⟩ then
          (members fuel false (⟨'-', true⟩ :: high :: rest)).map fun (more, rest) =>
            (.range m.char m.char :: more, rest)
        else (members fuel false rest).map fun (more, rest) =>
          (.range m.char high.char :: more, rest)
      | none, rest => (members fuel false rest).map fun (more, rest) =>
          (.range m.char m.char :: more, rest)

/-- What brackets stand for, and the marks after them; an exclamation mark at the front turns them
round. -/
def bracket? (marks : List Mark) : Option ((Char → Bool) × List Mark) :=
  let isInverted := marks.head? = some ⟨'!', true⟩
  let inside := if isInverted then marks.tail else marks
  (members (inside.length + 1) true inside).map fun (ms, rest) =>
    (fun c => ms.any (Member.has c) != isInverted, rest)

/-! ## Texts -/

/-- All ends of a text, the longest one first. -/
def endsOf : List α → List (List α)
  | [] => [[]]
  | c :: cs => (c :: cs) :: endsOf cs

/-- Whether marks stand for a text; the number bounds how many marks there are. -/
def standsFor : Nat → List Mark → List Char → Bool
  | _, [], text => text.isEmpty
  | 0, _ :: _, _ => false
  | fuel + 1, m :: marks, text =>
    if m = ⟨'*', true⟩ then
      if marks.isEmpty then true else (endsOf text).any (standsFor fuel marks)
    else match text with
      | [] => false
      | c :: text =>
        if m = ⟨'?', true⟩ then standsFor fuel marks text
        else match if m = ⟨'[', true⟩ then bracket? marks else none with
          | some (has, rest) => has c && standsFor fuel rest text
          | none => m.char = c && standsFor fuel marks text

/-- Whether marks stand for a text. -/
def matchesAll (marks : List Mark) (text : List Char) : Bool :=
  standsFor (marks.length + 1) marks text

/-- A text without the stretch at its front that marks stand for. -/
def cutFront (longest : Bool) (marks : List Mark) (text : List Char) : List Char :=
  let sizes := List.range (text.length + 1)
  let sizes := if longest then sizes.reverse else sizes
  match sizes.find? fun n => matchesAll marks (text.take n) with
  | some n => text.drop n
  | none => text

/-- A text without the stretch at its end that marks stand for. -/
def cutEnd (longest : Bool) (marks : List Mark) (text : List Char) : List Char :=
  let sizes := List.range (text.length + 1)
  let sizes := if longest then sizes else sizes.reverse
  match sizes.find? fun n => matchesAll marks (text.drop n) with
  | some n => text.take n
  | none => text

/-! ## Paths -/

/-- Whether brackets at the front of a segment are closed in it. -/
def isClosed (marks : List Mark) : Bool :=
  let marks := if marks.head? = some ⟨'!', true⟩ then marks.tail else marks
  marks.tail.any fun m => m = ⟨']', true⟩

/-- Whether marks can stand for other texts than their own. -/
def hasWild : List Mark → Bool
  | [] => false
  | m :: marks =>
    m = ⟨'*', true⟩ || m = ⟨'?', true⟩ || (m = ⟨'[', true⟩ && isClosed marks) || hasWild marks

/-- Whether a name is hidden: only patterns that begin with a dot stand for it. -/
def isHidden (name : String) : Bool := name.toList.head? = some '.'

/-- Which names patterns stand for. -/
structure Globbing where
  /-- Whether the names of a directory itself and of the one above it are among them. -/
  hasDots : Bool := true
  /-- Whether any pattern stands for hidden names. -/
  showsHidden : Bool := false
  deriving Repr, DecidableEq

/-- The names in a directory that marks stand for. -/
def namesLike (g : Globbing) (t : Tree) (place : Place) (marks : List Mark) : List String :=
  let dots := if g.hasDots then [".", ".."] else []
  (dots ++ (t.namesIn place).map toOctets).filter fun name =>
    (!isHidden name || g.showsHidden || (marks.head?.map (·.char)) = some '.') &&
      matchesAll marks name.toList

/-- The paths that segments stand for after a path. -/
def pathsLike (g : Globbing) (t : Tree) (current : Place) :
    (before : String) → List (List Mark) → List String
  | _, [] => []
  | before, segment :: rest =>
    if hasWild segment then
      match t.node current (ofOctets (if before.isEmpty then "." else before)) with
      | .ok (place, .directory) =>
        let found := (namesLike g t place segment).map fun name => before ++ name
        if rest.isEmpty then found
        else found.flatMap fun path => pathsLike g t current (path ++ "/") rest
      | _ => []
    else
      let path := before ++ markText segment
      if rest.isEmpty then
        if (t.linkNode current (ofOctets path)).isOk then [path] else []
      else pathsLike g t current (path ++ "/") rest

/-- The paths that marks stand for, in order, if they are a pattern. -/
def pathsFor? (g : Globbing) (t : Tree) (current : Place) (marks : List Mark) :
    Option (List String) :=
  let segments := piecesOf (·.char = '/') marks
  if segments.any hasWild then some (pathsLike g t current "" segments).mergeSort else none

/-- The words that marks make: the paths that they stand for, or the marks themselves when there is
none. -/
def wordsLike (g : Globbing) (t : Tree) (current : Place) (marks : List Mark) : List String :=
  match pathsFor? g t current marks with
  | none | some [] => [markText marks]
  | some paths => paths

/-- Marks where another sign turns brackets round too. -/
def withCarets : List Mark → List Mark
  | ⟨'[', true⟩ :: ⟨'^', true⟩ :: marks => ⟨'[', true⟩ :: ⟨'!', true⟩ :: withCarets marks
  | m :: marks => m :: withCarets marks
  | [] => []

end ScriptedShell.Local.Script
