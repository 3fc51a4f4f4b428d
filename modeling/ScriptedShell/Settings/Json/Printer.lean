/-
# Printing JSON

The written form of documents: two spaces for each level, one item or entry a line, and nothing
between the brackets of an empty list or table.  In strings, quotes, backslashes and control
characters are escaped.
-/
import ScriptedShell.Settings.Document

namespace ScriptedShell.Json

/-- A digit of a hexadecimal code. -/
def hexDigit (n : Nat) : Char := (Nat.digitChar n)

/-- A character as it stands in a string. -/
def escape (c : Char) : List Char :=
  let n := c.toNat
  if c = '"' then ['\\', '"']
  else if c = '\\' then ['\\', '\\']
  else if n = 8 then ['\\', 'b']
  else if n = 12 then ['\\', 'f']
  else if c = '\n' then ['\\', 'n']
  else if c = '\r' then ['\\', 'r']
  else if c = '\t' then ['\\', 't']
  else if n < 0x20 then ['\\', 'u', '0', '0', hexDigit (n / 16), hexDigit (n % 16)]
  else [c]

/-- A string with its quotes. -/
def quote (s : String) : String := "\"" ++ String.ofList (s.toList.flatMap escape) ++ "\""

/-- The start of a line at a level. -/
def newLine (level : Nat) : String := "\n" ++ String.ofList (List.replicate (2 * level) ' ')

mutual

/-- A document at a level.  Numbers that are no integers, moments and values without a meaning have
no written form; settings hold none. -/
def pretty (level : Nat) : Document → String
  | .null => "null"
  | .bool true => "true"
  | .bool false => "false"
  | .integer n => toString n
  | .text s => quote s
  | .list [] => "[]"
  | .list (d :: ds) =>
    "[" ++ newLine (level + 1) ++ pretty (level + 1) d ++ prettyItems (level + 1) ds ++
      newLine level ++ "]"
  | .table [] => "\x7b\x7d"
  | .table ((k, d) :: es) =>
    "\x7b" ++ newLine (level + 1) ++ quote k ++ ": " ++ pretty (level + 1) d ++
      prettyEntries (level + 1) es ++ newLine level ++ "\x7d"
  | .decimal | .moment _ | .meaningless => ""

/-- The items of a list after its first one. -/
def prettyItems (level : Nat) : List Document → String
  | [] => ""
  | d :: ds => "," ++ newLine level ++ pretty level d ++ prettyItems level ds

/-- The entries of a table after its first one. -/
def prettyEntries (level : Nat) : List (String × Document) → String
  | [] => ""
  | (k, d) :: es =>
    "," ++ newLine level ++ quote k ++ ": " ++ pretty level d ++ prettyEntries level es

end

/-- The written form of a document. -/
def print (d : Document) : String := pretty 0 d

end ScriptedShell.Json
