/-
# Printing TOML

The written form of tables: first the entries that are no tables, one a line, then the tables, each
under its header.  A table that holds nothing but tables has no header of its own.  Lists of
several items have one item a line.  Strings are written in the plainest form that needs no escape,
and between quotes if there is none.
-/
import ScriptedShell.Settings.Toml.Quoted
import ScriptedShell.Settings.Document

namespace ScriptedShell.Toml

/-! ## Strings -/

/-- The length of the longest stretch of one character, where `now` of them stand before. -/
def longestStretch (mark : Char) : Nat → List Char → Nat
  | now, [] => now
  | now, c :: cs => if c = mark then longestStretch mark (now + 1) cs
      else max now (longestStretch mark 0 cs)

/-- Whether a character must be given by an escape: control characters other than tabs and line
feeds. -/
def needsCode (c : Char) : Bool := !isPrintable c && c != '\n'

/-- What the form of a string depends on. -/
structure Traits where
  hasCode : Bool
  hasBackslash : Bool
  hasBreak : Bool
  quotes : Nat
  apostrophes : Nat

/-- The traits of a string. -/
def traitsOf (cs : List Char) : Traits where
  hasCode := cs.any needsCode
  hasBackslash := cs.any (· = '\\')
  hasBreak := cs.any (· = '\n')
  quotes := longestStretch quoteMark 0 cs
  apostrophes := longestStretch apostrophe 0 cs

/-- The forms of a string. -/
inductive StringForm where
  | basic
  | literal
  | longBasic
  | longLiteral
  deriving Repr, DecidableEq

/-- The form that a string is written in. -/
def Traits.form (t : Traits) : StringForm :=
  if !t.hasCode && !t.hasBackslash && t.quotes = 0 && !t.hasBreak then .basic
  else if !t.hasCode && t.apostrophes = 0 && !t.hasBreak then .literal
  else if !t.hasCode && !t.hasBackslash && t.quotes ≤ 2 then .longBasic
  else if !t.hasCode && t.apostrophes ≤ 2 then .longLiteral
  else if t.hasBreak then .longBasic
  else .basic

/-- The form that a key between quotes is written in. -/
def Traits.keyForm (t : Traits) : StringForm :=
  if !t.hasCode && !t.hasBackslash && t.quotes = 0 && !t.hasBreak then .basic
  else if !t.hasCode && t.apostrophes = 0 && !t.hasBreak then .literal
  else .basic

/-- A digit of a hexadecimal code. -/
def hexDigit (n : Nat) : Char := (Nat.digitChar n).toUpper

/-- A control character as it stands between quotes. -/
def codeOf (c : Char) : List Char :=
  let n := c.toNat
  if n = 8 then ['\\', 'b']
  else if c = '\t' then ['\\', 't']
  else if c = '\n' then ['\\', 'n']
  else if n = 12 then ['\\', 'f']
  else if c = '\r' then ['\\', 'r']
  else ['\\', 'u', '0', '0', hexDigit (n / 16), hexDigit (n % 16)]

/-- The characters of a string between quotes, where `allowed` quotes can stand beside each other
without an escape, and line feeds need none if `long` holds; `quotes` stand before. -/
def escapeAll (long : Bool) (allowed : Nat) : Nat → List Char → List Char
  | _, [] => []
  | quotes, c :: cs =>
    if c = quoteMark then
      if quotes < allowed then c :: escapeAll long allowed (quotes + 1) cs
      else '\\' :: c :: escapeAll long allowed 0 cs
    else if c = '\\' then '\\' :: '\\' :: escapeAll long allowed 0 cs
    else if (c = '\n' && long) || (isPrintable c && c != '\t') then
      c :: escapeAll long allowed 0 cs
    else codeOf c ++ escapeAll long allowed 0 cs

/-- The line feed that the first line break of a long string is written after. -/
def breakBefore (t : Traits) : List Char := if t.hasBreak then ['\n'] else []

/-- A string in a form. -/
def writeString (form : StringForm) (cs : List Char) : String :=
  let around := fun (count : Nat) (mark : Char) (inner : List Char) =>
    String.ofList (List.replicate count mark ++ inner ++ List.replicate count mark)
  match form with
  | .basic => around 1 quoteMark (escapeAll false 0 0 cs)
  | .literal => around 1 apostrophe cs
  | .longBasic => around 3 quoteMark (breakBefore (traitsOf cs) ++ escapeAll true 2 0 cs)
  | .longLiteral => around 3 apostrophe (breakBefore (traitsOf cs) ++ cs)

/-- The written form of a string. -/
def printString (s : String) : String := writeString (traitsOf s.toList).form s.toList

/-- The written form of a key. -/
def printKey (s : String) : String :=
  let cs := s.toList
  if !cs.isEmpty && cs.all isKeyChar then s
  else writeString (traitsOf cs).keyForm cs

/-! ## Values -/

/-- The lines of the items of a list. -/
def itemLines (items : List String) : String :=
  String.join (items.map fun item => "    " ++ item ++ ",\n")

/-- The written form of a list. -/
def printList : List String → String
  | [] => "[]"
  | [item] => "[" ++ item ++ "]"
  | items => "[\n" ++ itemLines items ++ "]"

mutual

/-- The written form of a value that is no table, if it has one. -/
def printValue? : Document → Option String
  | .bool true => some "true"
  | .bool false => some "false"
  | .integer n => some (toString n)
  | .text s => some (printString s)
  | .list ds => some (printList (printItems ds))
  | .null | .decimal | .moment _ | .meaningless | .table _ => none

/-- The written forms of the items of a list. -/
def printItems : List Document → List String
  | [] => []
  | d :: ds => (printValue? d).toList ++ printItems ds

end

/-! ## Tables -/

/-- The lines of the entries of a table that are no tables; entries without a value are left out. -/
def valueLines (entries : List (String × Document)) : List String :=
  entries.filterMap fun (k, d) =>
    (printValue? d).map fun text => printKey k ++ " = " ++ text ++ "\n"

/-- The header of a table. -/
def headerLine (path : List String) : String :=
  "[" ++ String.intercalate "." (path.map printKey) ++ "]\n"

/-- The header of a table and the lines of its values; nothing for the whole text and for tables
that hold nothing but tables. -/
def ownBlock (path : List String) (entries : List (String × Document)) : List String :=
  let lines := valueLines entries
  let header := if path.isEmpty then "" else headerLine path
  if lines.isEmpty && (path.isEmpty || !entries.isEmpty) then []
  else [header ++ String.join lines]

mutual

/-- The blocks of a table and of the tables in it, in order. -/
def tableBlocks (path : List String) : Document → List String
  | .table entries => ownBlock path entries ++ innerBlocks path entries
  | _ => []

/-- The blocks of the tables among entries. -/
def innerBlocks (path : List String) : List (String × Document) → List String
  | [] => []
  | (k, d) :: rest => tableBlocks (path ++ [k]) d ++ innerBlocks path rest

end

/-- The written form of a table, with an empty line between its blocks. -/
def print (d : Document) : String := String.intercalate "\n" (tableBlocks [] d)

end ScriptedShell.Toml
