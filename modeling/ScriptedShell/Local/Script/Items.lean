/-
# Items

The items of variables that are arrays.  Their keys are numbers, kept in order, or any texts, kept in
an order of scattered places; of two items with one place the later one comes first.
-/

namespace ScriptedShell.Local.Script

/-- The number that scatters texts: it grows by a factor with each byte and is mixed with it. -/
def scatter (text : String) : Nat :=
  text.toList.foldl (fun n c => Nat.xor (n * 16777619 % Nat.pow 2 32) c.toNat) 2166136261

/-- The number of places that texts are scattered over. -/
def scatterPlaces : Nat := 1024

/-- The place of a text. -/
def scatterPlace (text : String) : Nat := scatter text % scatterPlaces

/-- The items of an array. -/
structure Items where
  /-- Whether the keys are any texts. -/
  isNamed : Bool := false
  entries : List (String × String) := []
  deriving Repr, DecidableEq, Inhabited

namespace Items

/-- The number by which a key is kept in order. -/
def rank (items : Items) (key : String) : Nat :=
  if items.isNamed then scatterPlace key else key.toNat?.getD 0

/-- The item with a key. -/
def get? (items : Items) (key : String) : Option String := items.entries.lookup key

/-- The keys in order. -/
def keys (items : Items) : List String := items.entries.map (·.1)

/-- The values in the order of their keys. -/
def values (items : Items) : List String := items.entries.map (·.2)

/-- The number that follows all keys. -/
def next (items : Items) : Nat :=
  match items.entries.getLast? with
  | some (key, _) => key.toNat?.getD 0 + 1
  | none => 0

/-- Give a value to the item with a key. -/
def put (items : Items) (key value : String) : Items :=
  if (items.get? key).isSome then
    { items with
      entries := items.entries.map fun (k, v) => if k = key then (k, value) else (k, v) }
  else
    let rank := items.rank key
    let (before, after) := items.entries.span fun p => items.rank p.1 < rank
    { items with entries := before ++ (key, value) :: after }

/-- Take the item with a key away. -/
def erase (items : Items) (key : String) : Items :=
  { items with entries := items.entries.filter (·.1 != key) }

/-- The items that texts make, with the numbers from zero on. -/
def ofList (texts : List String) : Items :=
  { entries := texts.zipIdx.map fun (text, i) => (toString i, text) }

/-- The key that a number names: one below zero counts from the end. -/
def key? (items : Items) (n : Int) : Option String :=
  if 0 ≤ n then some (toString n)
  else
    let n := n + items.next
    if 0 ≤ n then some (toString n) else none

end Items

end ScriptedShell.Local.Script
