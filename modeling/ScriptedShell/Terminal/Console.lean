/-
# The console

What a program writes to its console is a list of entries.  They can be looked through as a
record, or rendered as the text that a terminal receives.
-/
import ScriptedShell.Text.Blank
import ScriptedShell.Text.Lines

namespace ScriptedShell.Terminal

open Text

/-- One thing written to the console. -/
inductive Entry where
  /-- A line of text. -/
  | line (text : String)
  /-- Text that leaves the cursor where it ends. -/
  | text (text : String)
  /-- A whole row of the screen; rows count from 1. -/
  | row (row : Nat) (text : String)
  /-- The screen is cleared. -/
  | clear
  deriving Repr, DecidableEq

namespace Entry

/-- The text of an entry that is a line. -/
def line? : Entry → Option String
  | .line t => some t
  | _ => none

/-- The text of an entry that writes the given row. -/
def rowText? (row : Nat) : Entry → Option String
  | .row r t => if r = row then some t else none
  | _ => none

/-- Whether the text of an entry has `needle` in it; clearing the screen has no text. -/
def mentions (needle : String) : Entry → Bool
  | .line t | .text t | .row _ t => contains t needle
  | .clear => false

/-- The characters that a terminal receives for an entry: a row is reached by cursor addressing
and the rest of it is erased. -/
def render : Entry → String
  | .line t => t ++ "\n"
  | .text t => t
  | .row r t => "\x1b[" ++ toString (max r 1) ++ ";1H" ++ t ++ "\x1b[K"
  | .clear => "\x1b[2J\x1b[H"

end Entry

/-- The characters that a terminal receives for a list of entries. -/
def renderAll (entries : List Entry) : String := String.join (entries.map Entry.render)

/-- A console that keeps a record of what is written to it. -/
structure Recorder where
  width : Nat := 80
  entries : List Entry := []
  deriving Repr, DecidableEq

namespace Recorder

/-- Add an entry to the record. -/
def write (r : Recorder) (e : Entry) : Recorder := { r with entries := r.entries ++ [e] }

/-- The recorded lines. -/
def lines (r : Recorder) : List String := r.entries.filterMap Entry.line?

/-- The texts recorded for one row. -/
def rows (r : Recorder) (row : Nat) : List String := r.entries.filterMap (Entry.rowText? row)

/-- Whether some recorded text has `needle` in it. -/
def mentions (r : Recorder) (needle : String) : Bool := r.entries.any (Entry.mentions needle)

/-- The record, and the console with an empty one. -/
def take (r : Recorder) : List Entry × Recorder := (r.entries, { r with entries := [] })

end Recorder

/-- The columns of the screen given to a program: no more than 65535. -/
def screenColumns (width : Nat) : Nat := min width 65535

end ScriptedShell.Terminal
