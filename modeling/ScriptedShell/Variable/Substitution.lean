/-
# References to variables

A word can refer to variables in three ways: it is the key of a declared variable, it holds a call
such as `-@var(NAME)`, or it holds a name in braces.  References are resolved word by word, in this
order, and the gaps between words stay as they are.  Unknown references stay as written.  A dollar
sign in front of the word is dropped when a name in braces was resolved.
-/
import ScriptedShell.Command.Line

namespace ScriptedShell.Variable

open Text Command

/-! ## Words -/

/-- Whether a character can stand in the name of a call. -/
def isCallNameChar (c : Char) : Bool := c != '(' && c != ')' && !isBlank c

/-- Whether a character can stand in a name in braces. -/
def isBraceNameChar (c : Char) : Bool :=
  c.isAlphanum || c = '_' || c = '-' || c = '@' || c = '.'

/-- A kind of reference: the text before the name, the characters of names, and the one character
after the name. -/
structure Reference where
  opening : List Char
  nameChar : Char → Bool
  closing : Char

/-- The call `-@var(NAME)`. -/
def callReference : Reference := ⟨"-@var(".toList, isCallNameChar, ')'⟩

/-- A name in braces. -/
def braceReference : Reference := ⟨['\x7b'], isBraceNameChar, '\x7d'⟩

/-- The name that begins a text and the text after it and the closing character. -/
def Reference.readName? (r : Reference) (cs : List Char) : Option (List Char × List Char) :=
  match cs.takeWhile r.nameChar, cs.dropWhile r.nameChar with
  | c :: name, close :: rest => if close = r.closing then some (c :: name, rest) else none
  | _, _ => none

/-- The name of a reference that begins a text, and the text after the reference. -/
def Reference.read? (r : Reference) (cs : List Char) : Option (List Char × List Char) :=
  if r.opening.isPrefixOf cs then r.readName? (cs.drop r.opening.length) else none

theorem Reference.length_of_readName? {r : Reference} {cs name rest : List Char}
    (h : r.readName? cs = some (name, rest)) : rest.length < cs.length := by
  unfold Reference.readName? at h
  split at h
  · rename_i c name' close rest' _ hdrop
    split at h
    · simp only [Option.some.injEq, Prod.mk.injEq] at h
      obtain ⟨_, rfl⟩ := h
      have hle := (List.dropWhile_suffix (l := cs) r.nameChar).length_le
      rw [hdrop] at hle
      simp only [List.length_cons] at hle
      omega
    · simp at h
  · simp at h

theorem Reference.length_of_read? {r : Reference} {cs name rest : List Char}
    (h : r.read? cs = some (name, rest)) : rest.length < cs.length := by
  unfold Reference.read? at h
  split at h
  · have := Reference.length_of_readName? h
    simp only [List.length_drop] at this
    omega
  · simp at h

/-- Replace the references of one kind, from left to right, and count those that were resolved. -/
def Reference.resolve (r : Reference) (value? : String → Option String) :
    List Char → List Char × Nat
  | [] => ([], 0)
  | c :: cs =>
    match _found : r.read? (c :: cs) with
    | some (name, rest) =>
      let (done, count) := r.resolve value? rest
      match value? (String.ofList name) with
      | some value => (value.toList ++ done, count + 1)
      | none => (r.opening ++ name ++ r.closing :: done, count)
    | none =>
      let (done, count) := r.resolve value? cs
      (c :: done, count)
  termination_by cs => cs.length
  decreasing_by
    · exact Reference.length_of_read? _found
    · simp

/-- Resolve the calls and the names in braces of one word. -/
def substituteWord (layers : List Store) (word : String) : String :=
  let value? := fun name => lookup name layers
  let called := (callReference.resolve value? word.toList).1
  let (text, count) := braceReference.resolve value? called
  String.ofList (match text with
    | '$' :: rest => if count > 0 then rest else text
    | _ => text)

/-! ## Lines -/

/-- The value of a word that is the key of a declared variable; other words stay. -/
def resolveKey (layers : List Store) (word : String) : String :=
  if startsWith word variableMarker then (lookup word layers).getD word else word

/-- The words of a part, each with whether it may stand for a variable by being its key: not the
command itself, and not the key of a keyed part. -/
def keyedWords (part : Part) : List (String × Bool) :=
  part.words.mapIdx fun position word =>
    (word, part.index != 0 && !(part.key?.isSome && position == 0))

/-- The resolved words of a line, in order. -/
def substitutedWords (line : Line) (layers : List Store) : List String :=
  (line.parts.flatMap keyedWords).map fun (word, byKey) =>
    substituteWord layers
      (if byKey && !line.keyword.namesVariables then resolveKey layers word else word)

/-- Put words in place of the words among runs, keeping the gaps; when the words run out, the rest
of the runs stays. -/
def replaceWords : List Run → List String → List Char
  | .gap t :: rest, ws => t ++ replaceWords rest ws
  | .word _ :: rest, w :: ws => w.toList ++ replaceWords rest ws
  | .word t :: rest, [] => t ++ replaceWords rest []
  | [], _ => []

/-- The text of a line with its references resolved. -/
def substituteLine (line : Line) (layers : List Store) : String :=
  String.ofList (replaceWords (runs line.raw.toList) (substitutedWords line layers))

/-- The line with its references resolved and its parts grouped anew. -/
def resolveLine (policies : PolicyTable) (line : Line) (layers : List Store) : Line :=
  let text := substituteLine line layers
  if text = line.raw then line else Line.parse policies text

end ScriptedShell.Variable
