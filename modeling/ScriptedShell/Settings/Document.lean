/-
# Documents

The values that settings files hold, whatever their format.  Tables keep their entries in the order
of the file, repeated keys included.
-/

namespace ScriptedShell

/-- A value of a settings file. -/
inductive Document where
  | null
  | bool (b : Bool)
  | integer (n : Int)
  /-- A number that is not written as an integer. -/
  | decimal
  | text (s : String)
  /-- A date, a time or both, as it is written in full. -/
  | moment (written : String)
  /-- A value that is written well but stands for none, such as a text with half a character. -/
  | meaningless
  | list (items : List Document)
  | table (entries : List (String × Document))
  deriving Repr, Inhabited

namespace Document

/-- The values of a key of a table. -/
def valuesAt (entries : List (String × Document)) (key : String) : List Document :=
  entries.filterMap fun (k, v) => if k = key then some v else none

end Document

end ScriptedShell
