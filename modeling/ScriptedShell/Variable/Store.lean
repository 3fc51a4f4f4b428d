/-
# Variable stores

A store keeps variables in the order in which their keys were first declared.  Keys carry the
variable marker; declaring and reading add it to bare names, removing does not.  Several stores
are read in layers: the first one that holds a key answers.
-/
import ScriptedShell.Command.Keyword
import ScriptedShell.Text.Blank

namespace ScriptedShell

open Text Command

namespace Variable

/-- A name with the variable marker in front, which is added unless it is there. -/
def marked (name : String) : String :=
  if startsWith name variableMarker then name else variableMarker ++ name

/-- Variables in order of declaration. -/
structure Store where
  entries : List (String × String) := []
  deriving Repr, DecidableEq

/-- Set the value of a key in place, or put a new entry at the end. -/
def setEntry (key value : String) : List (String × String) → List (String × String)
  | [] => [(key, value)]
  | (k, v) :: rest => if k = key then (k, value) :: rest else (k, v) :: setEntry key value rest

namespace Store

/-- The store without variables. -/
def empty : Store := {}

/-- Declare a variable; a known key keeps its place. -/
def declare (s : Store) (name value : String) : Store := ⟨setEntry (marked name) value s.entries⟩

/-- The value of a variable. -/
def get? (s : Store) (name : String) : Option String := s.entries.lookup (marked name)

/-- Whether a variable is declared. -/
def contains (s : Store) (name : String) : Bool := (s.get? name).isSome

/-- The value of an entry with exactly this key, and the store without that entry. -/
def remove (s : Store) (key : String) : Option String × Store :=
  match s.entries.lookup key with
  | none => (none, s)
  | some value => (some value, ⟨s.entries.eraseP fun entry => entry.1 = key⟩)

/-- Declare all variables of another store, in its order. -/
def merge (s other : Store) : Store :=
  other.entries.foldl (fun store (key, value) => store.declare key value) s

/-- The number of variables. -/
def size (s : Store) : Nat := s.entries.length

/-- The store of a list of declarations. -/
def ofList (pairs : List (String × String)) : Store :=
  pairs.foldl (fun store (name, value) => store.declare name value) empty

/-- The variables in order. -/
def toList (s : Store) : List (String × String) := s.entries

end Store

/-- The value of a variable in the first layer that has it. -/
def lookup (name : String) (layers : List Store) : Option String :=
  layers.findSome? fun store => store.get? name

end Variable

end ScriptedShell
