/-
# Trees of tables

The tables that the statements of a TOML text build.  A table is implied by the header of a table
inside it, dotted when keys with dots brought it about, or defined by a header of its own.  A
header can define an implied table, and no other one again; keys with dots can go on in all tables
but defined ones, and values and inline tables are never added to.
-/
import ScriptedShell.Settings.Document

namespace ScriptedShell.Toml

/-- How a table came about. -/
inductive TableKind where
  | implied
  | dotted
  | defined
  deriving Repr, DecidableEq

/-- What stands at a key. -/
inductive Node where
  | value (d : Document)
  | table (kind : TableKind) (entries : List (String × Node))
  /-- Tables under one header, the last of which is being filled. -/
  | tables (done : List (List (String × Node))) (last : List (String × Node))
  deriving Repr, Inhabited

/-- The entries of a table. -/
abbrev Entries := List (String × Node)

/-- Change what stands at a key, or put something there. -/
def change (key : String) (f : Option Node → Option Node) : Entries → Option Entries
  | [] => (f none).map fun n => [(key, n)]
  | (k, n) :: rest =>
    if k = key then (f (some n)).map fun n => (k, n) :: rest
    else (change key f rest).map fun rest => (k, n) :: rest

/-- Change the entries of the table that a node is, or of the last of its tables. -/
def inTable (f : Entries → Option Entries) : Node → Option Node
  | .value _ => none
  | .table kind entries => (f entries).map fun entries => .table kind entries
  | .tables done last => (f last).map fun last => .tables done last

/-- Change the node that the keys of a header lead to, implying tables that are missing. -/
def along (g : Node → Option Node) : List String → Node → Option Node
  | [], n => g n
  | key :: rest, n =>
    inTable (change key fun child => along g rest (child.getD (.table .implied []))) n

/-- Define the table at a key. -/
def defineTable (key : String) : Node → Option Node :=
  inTable (change key fun
    | none => some (.table .defined [])
    | some (.table .implied entries) => some (.table .defined entries)
    | _ => none)

/-- Begin another of the tables at a key. -/
def beginTable (key : String) : Node → Option Node :=
  inTable (change key fun
    | none => some (.tables [] [])
    | some (.tables done last) => some (.tables (done ++ [last]) [])
    | _ => none)

/-- Put a value at a key that is free. -/
def putValue (key : String) (d : Document) : Node → Option Node :=
  inTable (change key fun
    | none => some (.value d)
    | some _ => none)

/-- Whether keys with dots can go on in a node. -/
def Node.isOpen : Node → Bool
  | .table kind _ => kind != .defined
  | _ => false

/-- Put a value where keys with dots between them lead. -/
def putDotted (key : String) (d : Document) : List String → Node → Option Node
  | [], n => putValue key d n
  | k :: rest, n => inTable (change k fun child =>
      let child := child.getD (.table .dotted [])
      if child.isOpen then putDotted key d rest child else none) n

/-! ## Documents -/

mutual

/-- The document of a node. -/
def Node.toDocument : Node → Document
  | .value d => d
  | .table _ entries => .table (entriesOf entries)
  | .tables done last => .list (tablesOf done ++ [.table (entriesOf last)])

/-- The documents of entries. -/
def entriesOf : List (String × Node) → List (String × Document)
  | [] => []
  | (k, n) :: rest => (k, n.toDocument) :: entriesOf rest

/-- The documents of tables. -/
def tablesOf : List (List (String × Node)) → List Document
  | [] => []
  | entries :: rest => .table (entriesOf entries) :: tablesOf rest

end

end ScriptedShell.Toml
