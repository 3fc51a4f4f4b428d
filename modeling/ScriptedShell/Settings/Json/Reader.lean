/-
# Reading JSON

Documents from JSON texts.  Nothing but white space may stand around the value; a number counts as
an integer when it has neither a fraction nor an exponent and is not the negative zero.  Codes of
half characters are written well but stand for nothing: a string with one, or a table with such a
key, is a value without a meaning.
-/
import ScriptedShell.Settings.Document
import ScriptedShell.Settings.Scan

namespace ScriptedShell.Json

open Scan

/-- White space between the tokens of a text. -/
def isSpace (c : Char) : Bool := c = ' ' || c = '\n' || c = '\t' || c = '\r'

/-- The text without the white space at its front. -/
def skipSpace (cs : List Char) : List Char := cs.dropWhile isSpace

/-! ## Strings -/

/-- The character that an escape of one letter stands for. -/
def escaped? : Char → Option Char
  | '"' => some '"'
  | '\\' => some '\\'
  | '/' => some '/'
  | 'b' => some (Char.ofNat 8)
  | 'f' => some (Char.ofNat 12)
  | 'n' => some '\n'
  | 'r' => some '\r'
  | 't' => some '\t'
  | _ => none

/-- The character made of the two halves that codes stand for. -/
def joinHalves? (high low : Nat) : Option Char :=
  if 0xD800 ≤ high && high < 0xDC00 && 0xDC00 ≤ low && low < 0xE000 then
    charOf? (0x10000 + (high - 0xD800) * 0x400 + (low - 0xDC00))
  else none

/-- Put a character before what a string goes on with; without a character the string has no
meaning. -/
def consChar (c : Option Char) (rest : Option (List Char)) : Option (List Char) :=
  match c, rest with
  | some c, some cs => some (c :: cs)
  | _, _ => none

/-- Put a character before the rest of a string that has been read. -/
def consRead (c : Option Char) (read : Option (Option (List Char) × List Char)) :
    Option (Option (List Char) × List Char) :=
  read.map fun (text, rest) => (consChar c text, rest)

/-- The characters of a string after its opening quote, if they stand for something, and the text
after its closing quote. -/
def readString : Reader (Option (List Char))
  | [] => none
  | '"' :: cs => some (some [], cs)
  | '\\' :: 'u' :: a :: b :: c :: d :: cs =>
    match numberOf? 16 [a, b, c, d] with
    | none => none
    | some high =>
      match cs with
      | '\\' :: 'u' :: e :: f :: g :: h :: rest =>
        match (numberOf? 16 [e, f, g, h]).bind (joinHalves? high) with
        | some whole => consRead (some whole) (readString rest)
        | none => consRead (charOf? high) (readString ('\\' :: 'u' :: e :: f :: g :: h :: rest))
      | cs => consRead (charOf? high) (readString cs)
  | '\\' :: c :: cs =>
    match escaped? c with
    | some x => consRead (some x) (readString cs)
    | none => none
  | c :: cs => if c.toNat < 0x20 || c = '\\' then none else consRead (some c) (readString cs)
  termination_by cs => cs.length

/-! ## Numbers -/

/-- The digits at the front of a text, of which there must be one. -/
def digits : Reader (List Char) := fun cs =>
  match stretch Char.isDigit cs with
  | ([], _) => none
  | found => some found

/-- The digits of a whole number, which does not begin with a zero unless it is zero. -/
def wholeDigits : Reader (List Char) := fun cs =>
  match digits cs with
  | some ('0' :: _ :: _, _) => none
  | found => found

/-- Whether a fraction follows, and the text after it. -/
def fraction : Reader Bool
  | '.' :: cs => (digits cs).map fun (_, rest) => (true, rest)
  | cs => some (false, cs)

/-- The text after the sign of an exponent, if it has one. -/
def skipSign : List Char → List Char
  | '+' :: cs => cs
  | '-' :: cs => cs
  | cs => cs

/-- Whether an exponent follows, and the text after it. -/
def exponent : Reader Bool
  | [] => some (false, [])
  | c :: cs =>
    if c = 'e' || c = 'E' then (digits (skipSign cs)).map fun (_, rest) => (true, rest)
    else some (false, c :: cs)

/-- A number without its sign. -/
def unsigned (negative : Bool) : Reader Document := fun cs => do
  let (whole, cs) ← wholeDigits cs
  let (hasFraction, cs) ← fraction cs
  let (hasExponent, cs) ← exponent cs
  let n := Text.digitsValue whole
  if hasFraction || hasExponent || (negative && n = 0) then return (.decimal, cs)
  else return (.integer (if negative then -n else n), cs)

/-- A number. -/
def number : Reader Document
  | '-' :: cs => unsigned true cs
  | cs => unsigned false cs

/-! ## Values -/

/-- A value that is written as a word. -/
def word : Reader Document := fun cs =>
  let named := fun (name : String) (d : Document) =>
    (after? name.toList cs).map fun rest => (d, rest)
  (named "null" .null).or ((named "true" (.bool true)).or (named "false" (.bool false)))

/-- The value of a string. -/
def textOf : Option (List Char) → Document
  | some cs => .text (String.ofList cs)
  | none => .meaningless

/-- Put an entry before the entries of a table; with a key without a meaning, or before a table
without one, there is none. -/
def consEntry (key : Option (List Char)) (value : Document) : Document → Document
  | .table entries =>
    match key with
    | some key => .table ((String.ofList key, value) :: entries)
    | none => .meaningless
  | _ => .meaningless

/-- Put an item before the items of a list. -/
def consItem (item : Document) : Document → Document
  | .list items => .list (item :: items)
  | d => d

mutual

/-- A value, with at most `depth` values inside each other or beside each other. -/
def value (depth : Nat) (cs : List Char) : Option (Document × List Char) :=
  match depth with
  | 0 => none
  | depth + 1 =>
    match skipSpace cs with
    | [] => none
    | '"' :: cs => (readString cs).map fun (text, rest) => (textOf text, rest)
    | '[' :: cs =>
      match skipSpace cs with
      | ']' :: rest => some (.list [], rest)
      | cs => items depth cs
    | '{' :: cs =>
      match skipSpace cs with
      | '}' :: rest => some (.table [], rest)
      | cs => entries depth cs
    | c :: cs => if c = '-' || c.isDigit then number (c :: cs) else word (c :: cs)

/-- The items of a list up to its closing bracket; there is at least one. -/
def items (depth : Nat) (cs : List Char) : Option (Document × List Char) :=
  match depth with
  | 0 => none
  | depth + 1 =>
    match value depth cs with
    | none => none
    | some (item, cs) =>
      match skipSpace cs with
      | ']' :: rest => some (.list [item], rest)
      | ',' :: cs => (items depth cs).map fun (more, rest) => (consItem item more, rest)
      | _ => none

/-- The entries of a table up to its closing brace; there is at least one. -/
def entries (depth : Nat) (cs : List Char) : Option (Document × List Char) :=
  match depth with
  | 0 => none
  | depth + 1 =>
    match skipSpace cs with
    | '"' :: cs =>
      match readString cs with
      | none => none
      | some (key, cs) =>
        match skipSpace cs with
        | ':' :: cs =>
          match value depth cs with
          | none => none
          | some (item, cs) =>
            match skipSpace cs with
            | '}' :: rest => some (consEntry key item (.table []), rest)
            | ',' :: cs =>
              (entries depth cs).map fun (more, rest) => (consEntry key item more, rest)
            | _ => none
        | _ => none
    | _ => none

end

/-- The document of a text. -/
def read? (text : String) : Option Document :=
  let cs := text.toList
  match value (2 * cs.length + 2) cs with
  | some (d, rest) => if (skipSpace rest).isEmpty then some d else none
  | none => none

end ScriptedShell.Json
