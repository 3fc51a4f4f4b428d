/-
# Reading TOML

Documents from TOML texts: statements one a line, each of which opens a table or gives a value to
a key.
-/
import ScriptedShell.Settings.Toml.Quoted
import ScriptedShell.Settings.Toml.Scalar
import ScriptedShell.Settings.Toml.Tree

namespace ScriptedShell.Toml

open Scan

/-- The text without the blanks at its front. -/
def skipSpaces (cs : List Char) : List Char := cs.dropWhile isSpace

/-- The text after a comment, if one begins here; its end is not passed over. -/
def skipComment? : List Char → Option (List Char)
  | '#' :: cs => some (cs.dropWhile isPrintable)
  | cs => some cs

/-- The text after blanks and perhaps a comment, which must end with the line. -/
def endLine? (cs : List Char) : Option (List Char) := do
  let rest ← skipComment? (skipSpaces cs)
  if rest.isEmpty then return [] else (lineBreak? rest).map fun (_, rest) => rest

/-- The text without the blanks, comments and line breaks at its front. -/
def skipLines : Nat → List Char → List Char
  | 0, cs => cs
  | fuel + 1, cs =>
    let cs := skipSpaces cs
    match cs, lineBreak? cs with
    | _, some (_, rest) => skipLines fuel rest
    | '#' :: rest, none =>
      match lineBreak? (rest.dropWhile isPrintable) with
      | some (_, rest) => skipLines fuel rest
      | none => cs
    | _, none => cs

/-! ## Keys -/

/-- A key without dots. -/
def simpleKey : Reader String := fun cs =>
  match stretch isKeyChar cs with
  | ([], _) => (shortString cs).map fun (text, rest) => (String.ofList text, rest)
  | (text, rest) => some (String.ofList text, rest)

/-- The most keys that can stand before the last one of keys with dots between them. -/
def maxPath : Nat := 79

/-- Keys with dots between them: the last one, and those before it. -/
def keyPath : Nat → Reader (List String × String)
  | 0, _ => none
  | fuel + 1, cs =>
    match simpleKey (skipSpaces cs) with
    | none => none
    | some (key, rest) =>
      match skipSpaces rest with
      | '.' :: rest => (keyPath fuel rest).map fun ((before, last), rest) =>
          ((key :: before, last), rest)
      | rest => some (([], key), rest)

/-- Keys with dots between them, which are not too many. -/
def keys : Reader (List String × String) := fun cs =>
  (keyPath (cs.length + 1) cs).filter fun ((path, _), _) => path.length ≤ maxPath

/-! ## Values -/

/-- Put an item before the items of a list that has been read. -/
def consItem (item : Document) (read : Option (List Document × List Char)) :
    Option (List Document × List Char) :=
  read.map fun (items, rest) => (item :: items, rest)

/-- The document of an inline table. -/
def closeTable (n : Node) (rest : List Char) : Option (Document × List Char) :=
  some (n.toDocument, rest)

/-- The most lists and inline tables that can stand inside each other. -/
def maxNesting : Nat := 80

mutual

/-- A value, with at most `depth` values inside each other or beside each other, and at most `level`
lists and tables inside each other. -/
def value (depth level : Nat) (cs : List Char) : Option (Document × List Char) :=
  match depth with
  | 0 => none
  | depth + 1 =>
    match cs, level with
    | '[' :: cs, level + 1 => (items depth level cs).map fun (items, rest) => (.list items, rest)
    | '\x7b' :: cs, level + 1 => entries depth level (.table .defined []) cs
    | '[' :: _, 0 | '\x7b' :: _, 0 => none
    | cs, _ =>
      match string cs with
      | some (text, rest) => some (.text (String.ofList text), rest)
      | none =>
        let (word, rest) := takeWord cs
        (scalarOf? word).map fun d => (d, rest)

/-- The items of a list up to its closing bracket, with commas between them and perhaps after the
last one. -/
def items (depth level : Nat) (cs : List Char) : Option (List Document × List Char) :=
  match depth with
  | 0 => none
  | depth + 1 =>
    match skipLines cs.length cs with
    | ']' :: rest => some ([], rest)
    | cs =>
      match value depth level cs with
      | none => none
      | some (item, rest) =>
        match skipLines rest.length rest with
        | ']' :: rest => some ([item], rest)
        | ',' :: rest => consItem item (items depth level rest)
        | _ => none

/-- The entries of an inline table up to its closing brace, put into a table; commas stand between
them and perhaps after the last one, and line breaks can stand anywhere but in keys. -/
def entries (depth level : Nat) (table : Node) (cs : List Char) :
    Option (Document × List Char) :=
  match depth with
  | 0 => none
  | depth + 1 =>
    match skipLines cs.length cs with
    | '\x7d' :: rest => closeTable table rest
    | cs =>
      match keys cs with
      | none => none
      | some ((path, key), rest) =>
        match skipLines rest.length rest with
        | '=' :: rest =>
          match value depth level (skipLines rest.length rest) with
          | none => none
          | some (d, rest) =>
            match putDotted key d path table, skipLines rest.length rest with
            | some table, '\x7d' :: rest => closeTable table rest
            | some table, ',' :: rest => entries depth level table rest
            | _, _ => none
        | _ => none

end

/-! ## Statements -/

/-- The tables built so far, and the keys of the header that is in force. -/
structure Draft where
  root : Node := .table .defined []
  header : List String := []

/-- Open the table of a header, or another one of its tables. -/
def Draft.openTable (draft : Draft) (several : Bool) (path : List String) (key : String) :
    Option Draft :=
  (along (if several then beginTable key else defineTable key) path draft.root).map fun root =>
    { root, header := path ++ [key] }

/-- Give a value to a key of the table in force. -/
def Draft.put (draft : Draft) (path : List String) (key : String) (d : Document) : Option Draft :=
  (along (putDotted key d path) draft.header draft.root).map fun root => { draft with root }

/-- The statement at the front of a text that is neither blank nor a comment. -/
def statement (draft : Draft) (cs : List Char) : Option (Draft × List Char) :=
  match cs with
  | '[' :: '[' :: cs => do
    let ((path, key), rest) ← keys cs
    let rest ← after? [']', ']'] (skipSpaces rest)
    return (← draft.openTable true path key, rest)
  | '[' :: cs => do
    let ((path, key), rest) ← keys cs
    let rest ← after? [']'] (skipSpaces rest)
    return (← draft.openTable false path key, rest)
  | cs => do
    let ((path, key), rest) ← keys cs
    let rest ← after? ['='] (skipSpaces rest)
    let (d, rest) ← value (2 * cs.length + 2) maxNesting (skipSpaces rest)
    return (← draft.put path key d, rest)

/-- All statements of a text. -/
def statements : Nat → Draft → List Char → Option Draft
  | 0, _, _ => none
  | fuel + 1, draft, cs =>
    match skipLines cs.length cs with
    | [] => some draft
    | '#' :: rest => if (rest.dropWhile isPrintable).isEmpty then some draft else none
    | cs =>
      match statement draft cs with
      | none => none
      | some (draft, rest) =>
        match endLine? rest with
        | some rest => statements fuel draft rest
        | none => none

/-- The mark that may stand before the first character of a text. -/
def byteOrderMark : Char := Char.ofNat 0xFEFF

/-- The text without the mark that may stand before it. -/
def skipMark : List Char → List Char
  | [] => []
  | c :: cs => if c = byteOrderMark then cs else c :: cs

/-- The document of a text. -/
def read? (text : String) : Option Document :=
  let cs := skipMark text.toList
  (statements (cs.length + 1) {} cs).map fun draft => draft.root.toDocument

end ScriptedShell.Toml
