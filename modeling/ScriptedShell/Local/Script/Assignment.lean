/-
# Assignments

Words that give values to variables: a name, a sign and a value.  In the extended language an index
can follow the name, and the sign can say that the value is added to the one that is there.
-/
import ScriptedShell.Local.Script.Source

namespace ScriptedShell.Local.Script

/-- An assignment. -/
structure Assignment where
  name : String
  /-- The item of an array that is meant. -/
  index : Option Word := none
  /-- Whether the value is added to the one that is there. -/
  appends : Bool := false
  value : Word

/-- The commands whose arguments can be assignments. -/
def declarers : List String := ["alias", "export", "local", "readonly"]

/-- The commands of the extended language whose arguments can be assignments. -/
def extendedDeclarers : List String := ["declare", "export", "local", "readonly", "typeset"]

/-- Whether a piece is a character that is not quoted. -/
def Piece.isPlain (c : Char) : Piece → Bool
  | .char d false => c = d
  | _ => false

/-- The index in brackets at the front of pieces, and the pieces after it. -/
def indexAt? (pieces : Word) : Option (Word × Word) :=
  match pieces with
  | first :: rest =>
    if first.isPlain '[' then
      match rest.span fun p => !p.isPlain ']' with
      | (index, _ :: after) => if index.isEmpty then none else some (index, after)
      | _ => none
    else none
  | [] => none

/-- The assignment that a word makes. -/
def assignmentOf? (dialect : Dialect) (word : Word) : Option Assignment := do
  let isNamePiece := fun (p : Piece) => match p with
    | .char c false => isNameChar c
    | _ => false
  let (front, rest) := word.span isNamePiece
  let name ← (plainText? front).filter fun name => isName name.toList
  match dialect with
  | .standard =>
    match rest with
    | sign :: value => if sign.isPlain '=' then some { name, value } else none
    | [] => none
  | .extended =>
    let (index, rest) := match indexAt? rest with
      | some (index, rest) => (some index, rest)
      | none => (none, rest)
    match rest with
    | plus :: sign :: value =>
      if plus.isPlain '+' && sign.isPlain '=' then some { name, index, appends := true, value }
      else if plus.isPlain '=' then some { name, index, value := sign :: value }
      else none
    | [sign] => if sign.isPlain '=' then some { name, index, value := [] } else none
    | [] => none

end ScriptedShell.Local.Script
