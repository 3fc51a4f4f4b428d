/-
# Strings of TOML

The characters of bare keys, and strings between quotes or apostrophes, on one line or between
triple marks on several.  Only between quotes does a backslash begin an escape; between triple
quotes, one at the end of a line takes all blanks and line breaks after it away.
-/
import ScriptedShell.Settings.Scan

namespace ScriptedShell.Toml

open Scan

/-- The mark that an escape begins with, and its quotes. -/
def quoteMark : Char := '"'

/-- The mark around strings without escapes. -/
def apostrophe : Char := Char.ofNat 39

/-- Whether a character can stand in strings and comments: anything but control characters, of which
tabs alone are allowed. -/
def isPrintable (c : Char) : Bool := c = '\t' || (0x20 ≤ c.toNat && c.toNat != 0x7F)

/-- Whether a character can stand in a key without quotes. -/
def isKeyChar (c : Char) : Bool := c.isAlphanum || c = '_' || c = '-'

/-- The character that an escape of one letter stands for. -/
def escaped? : Char → Option Char
  | 'b' => some (Char.ofNat 8)
  | 't' => some '\t'
  | 'n' => some '\n'
  | 'f' => some (Char.ofNat 12)
  | 'r' => some '\r'
  | 'e' => some (Char.ofNat 27)
  | '"' => some '"'
  | '\\' => some '\\'
  | _ => none

/-- How many digits the code of a character has after a letter. -/
def codeLength? : Char → Option Nat
  | 'x' => some 2
  | 'u' => some 4
  | 'U' => some 8
  | _ => none

/-- The character that an escape stands for, read after its backslash. -/
def escape : Reader Char
  | [] => none
  | c :: cs =>
    match codeLength? c with
    | some count => do
      let (code, rest) ← hexNumber count cs
      return (← charOf? code, rest)
    | none => (escaped? c).map fun x => (x, cs)

/-- Put a character before the text that has been read. -/
def consRead (c : Char) (read : Option (List Char × List Char)) : Option (List Char × List Char) :=
  read.map fun (text, rest) => (c :: text, rest)

/-! ## Strings on one line -/

/-- The text up to the closing mark of a string without escapes. -/
def literal : Reader (List Char)
  | [] => none
  | c :: cs =>
    if c = apostrophe then some ([], cs)
    else if isPrintable c then consRead c (literal cs)
    else none

/-- The text up to the closing mark of a string with escapes; `fuel` bounds its length. -/
def basic : Nat → Reader (List Char)
  | 0, _ => none
  | _ + 1, [] => none
  | fuel + 1, c :: cs =>
    if c = quoteMark then some ([], cs)
    else if c = '\\' then
      match escape cs with
      | some (x, rest) => consRead x (basic fuel rest)
      | none => none
    else if isPrintable c then consRead c (basic fuel cs)
    else none

/-! ## Strings on several lines -/

/-- A line break at the front of a text, and the text after it. -/
def lineBreak? : Reader (List Char)
  | '\n' :: cs => some (['\n'], cs)
  | '\r' :: '\n' :: cs => some (['\r', '\n'], cs)
  | _ => none

/-- The text without one line break at its front. -/
def skipBreak (cs : List Char) : List Char :=
  match lineBreak? cs with
  | some (_, rest) => rest
  | none => cs

/-- The closing triple mark at the front of a text: the marks before it that belong to the string,
at most two, and the text after it. -/
def closing? (mark : Char) (cs : List Char) : Option (List Char × List Char) :=
  let (marks, _) := stretch (· = mark) cs
  if 3 ≤ marks.length then
    let inside := min 2 (marks.length - 3)
    some (List.replicate inside mark, cs.drop (inside + 3))
  else none

/-- The text up to the closing triple mark of a string without escapes. -/
def longLiteral : Nat → Reader (List Char)
  | 0, _ => none
  | fuel + 1, cs =>
    match closing? apostrophe cs with
    | some found => some found
    | none =>
      match lineBreak? cs with
      | some (text, rest) => (longLiteral fuel rest).map fun (more, rest) => (text ++ more, rest)
      | none =>
        match cs with
        | [] => none
        | c :: cs => if isPrintable c then consRead c (longLiteral fuel cs) else none

/-- Whether a character is a blank within a line. -/
def isSpace (c : Char) : Bool := c = ' ' || c = '\t'

/-- The text after a backslash that ends its line: all blanks and line breaks are left out. -/
def joinLines? (cs : List Char) : Option (List Char) :=
  match lineBreak? (cs.dropWhile isSpace) with
  | some (_, rest) => some (skipAll (rest.length + 1) rest)
  | none => none
where
  /-- The text without the blanks and line breaks at its front. -/
  skipAll : Nat → List Char → List Char
    | 0, cs => cs
    | fuel + 1, cs =>
      match lineBreak? (cs.dropWhile isSpace) with
      | some (_, rest) => skipAll fuel rest
      | none => cs.dropWhile isSpace

/-- The text up to the closing triple mark of a string with escapes. -/
def longBasic : Nat → Reader (List Char)
  | 0, _ => none
  | fuel + 1, cs =>
    match closing? quoteMark cs with
    | some found => some found
    | none =>
      match lineBreak? cs with
      | some (text, rest) => (longBasic fuel rest).map fun (more, rest) => (text ++ more, rest)
      | none =>
        match cs with
        | [] => none
        | '\\' :: cs =>
          match joinLines? cs with
          | some rest => longBasic fuel rest
          | none =>
            match escape cs with
            | some (x, rest) => consRead x (longBasic fuel rest)
            | none => none
        | c :: cs => if isPrintable c then consRead c (longBasic fuel cs) else none

/-! ## All strings -/

/-- A string on one line, if one begins here. -/
def shortString : Reader (List Char)
  | [] => none
  | c :: cs =>
    if c = quoteMark then basic (cs.length + 1) cs
    else if c = apostrophe then literal cs
    else none

/-- A string, if one begins here. -/
def string : Reader (List Char) := fun cs =>
  let long := fun (read : Nat → Reader (List Char)) (rest : List Char) =>
    read (rest.length + 1) (skipBreak rest)
  match after? (List.replicate 3 quoteMark) cs, after? (List.replicate 3 apostrophe) cs with
  | some rest, _ => long longBasic rest
  | none, some rest => long longLiteral rest
  | none, none => shortString cs

end ScriptedShell.Toml
