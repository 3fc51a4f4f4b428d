/-
# Control sequences

Remote output is decorated with control sequences: colours, titles, cursor movement.  A scanner
with six states walks through a text and drops them, together with all other control characters
but line breaks and tabs.  What is kept depends on the state before a character and on the
character alone, so stripping a text in two pieces is stripping it whole, as long as the state at
the cut is handed on.
-/
import ScriptedShell.Text.Class

namespace ScriptedShell.Terminal

open Text

/-- Where the scanner is: in plain text or inside a control sequence. -/
inductive ScanState where
  /-- Outside all sequences. -/
  | plain
  /-- Right after an escape character. -/
  | escape
  /-- In a sequence with parameters, which ends with a character from `@` to `~`. -/
  | parameters
  /-- In an operating-system command, which ends with a bell or an escape character. -/
  | command
  /-- Right after the escape character that ended a command; a backslash still belongs to it. -/
  | commandEnd
  /-- Before the one character that names a character set. -/
  | charset
  deriving Repr, DecidableEq

/-- Whether a character outside all sequences is kept. -/
def keepsPlain (c : Char) : Bool := !isControl c || c = '\n' || c = '\r' || c = '\t'

/-- The state after a character of plain text. -/
def afterPlain (c : Char) : ScanState := if c = escapeChar then .escape else .plain

/-- The state after a character. -/
def ScanState.next : ScanState → Char → ScanState
  | .plain, c => afterPlain c
  | .escape, c =>
    if c = '[' then .parameters
    else if c = ']' then .command
    else if c = '(' || c = ')' || c = '*' || c = '+' then .charset
    else .plain
  | .parameters, c => if '@' ≤ c && c ≤ '~' then .plain else .parameters
  | .command, c =>
    if c = bellChar then .plain else if c = escapeChar then .commandEnd else .command
  | .commandEnd, c => if c = '\\' then .plain else afterPlain c
  | .charset, _ => .plain

/-- Whether a character is kept in a state. -/
def ScanState.keeps : ScanState → Char → Bool
  | .plain, c => keepsPlain c
  | .commandEnd, c => c != '\\' && keepsPlain c
  | _, _ => false

/-- The kept characters of a text that is read from a state on. -/
def stripFrom : ScanState → List Char → List Char
  | _, [] => []
  | s, c :: cs => if s.keeps c then c :: stripFrom (s.next c) cs else stripFrom (s.next c) cs

/-- The state after a whole text. -/
def scanState (s : ScanState) (cs : List Char) : ScanState := cs.foldl ScanState.next s

/-- The text without control sequences and other control characters. -/
def strip (cs : List Char) : List Char := stripFrom .plain cs

/-- Stripping goes piece by piece when the state at the cut is handed on. -/
theorem stripFrom_append (s : ScanState) (a b : List Char) :
    stripFrom s (a ++ b) = stripFrom s a ++ stripFrom (scanState s a) b := by
  induction a generalizing s with
  | nil => rfl
  | cons c a ih =>
    simp only [List.cons_append, stripFrom, scanState, List.foldl_cons, ih]
    split <;> rfl

end ScriptedShell.Terminal
