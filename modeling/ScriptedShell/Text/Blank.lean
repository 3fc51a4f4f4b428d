/-
# Blanks and words

Blanks are the characters of Unicode's White_Space property.  A text is cut into its runs: maximal
stretches of blanks (gaps) and of other characters (words).  Nothing is lost: the runs of a text
put together again are the text, gaps and words alternate, and no run is empty.
-/

namespace ScriptedShell.Text

/-- Whether a character has Unicode's White_Space property. -/
def isBlank (c : Char) : Bool :=
  let n := c.toNat
  (9 ≤ n && n ≤ 13) || n == 0x20 || n == 0x85 || n == 0xA0 || n == 0x1680 ||
    (0x2000 ≤ n && n ≤ 0x200A) || n == 0x2028 || n == 0x2029 || n == 0x202F || n == 0x205F ||
    n == 0x3000

/-! ## Trimming -/

/-- The text without the characters at its end that satisfy `p`. -/
def dropEndWhile (p : Char → Bool) (cs : List Char) : List Char :=
  (cs.reverse.dropWhile p).reverse

/-- The text without the blanks at its end. -/
def trimEnd (cs : List Char) : List Char := dropEndWhile isBlank cs

/-- The text without the blanks at its two ends. -/
def trim (cs : List Char) : List Char := trimEnd (cs.dropWhile isBlank)

/-- The text without the blanks at its two ends, as a string. -/
def trimmed (s : String) : String := String.ofList (trim s.toList)

/-- Whether a text holds nothing but blanks. -/
def isBlankText (s : String) : Bool := s.toList.all isBlank

/-! ## Runs -/

/-- A maximal stretch of blanks or of other characters. -/
inductive Run where
  | gap (text : List Char)
  | word (text : List Char)
  deriving Repr, DecidableEq

/-- The characters of a run. -/
def Run.text : Run → List Char
  | .gap t => t
  | .word t => t

/-- The characters of a word; a gap is none. -/
def Run.word? : Run → Option (List Char)
  | .gap _ => none
  | .word t => some t

/-- Put one character before a list of runs. -/
def consRun (c : Char) : List Run → List Run
  | .gap t :: rest => if isBlank c then .gap (c :: t) :: rest else .word [c] :: .gap t :: rest
  | .word t :: rest => if isBlank c then .gap [c] :: .word t :: rest else .word (c :: t) :: rest
  | [] => if isBlank c then [.gap [c]] else [.word [c]]

/-- The runs of a text, in order. -/
def runs : List Char → List Run
  | [] => []
  | c :: cs => consRun c (runs cs)

/-- The runs put together. -/
def joinRuns (rs : List Run) : List Char := rs.flatMap Run.text

theorem joinRuns_consRun (c : Char) (rs : List Run) :
    joinRuns (consRun c rs) = c :: joinRuns rs := by
  rcases rs with _ | ⟨r | r, rest⟩ <;> by_cases h : isBlank c <;>
    simp [consRun, joinRuns, Run.text, h]

/-- The runs of a text put together again are the text. -/
@[simp] theorem joinRuns_runs (cs : List Char) : joinRuns (runs cs) = cs := by
  induction cs with
  | nil => rfl
  | cons c cs ih => rw [runs, joinRuns_consRun, ih]

/-- The words of a text, in order. -/
def words (cs : List Char) : List (List Char) := (runs cs).filterMap Run.word?

/-- The words of a string, in order. -/
def wordsOf (s : String) : List String := (words s.toList).map String.ofList

/-! ## Searching -/

/-- Whether `needle` occurs in a text as a stretch of neighbouring characters. -/
def occursIn (needle : List Char) : List Char → Bool
  | [] => needle.isEmpty
  | c :: cs => needle.isPrefixOf (c :: cs) || occursIn needle cs

/-- Whether the string `needle` occurs in the string `s`. -/
def contains (s needle : String) : Bool := occursIn needle.toList s.toList

/-- Whether the string `s` begins with the string `start`. -/
def startsWith (s start : String) : Bool := start.toList.isPrefixOf s.toList

/-- The text before the first occurrence of a character and the text after it. -/
def cutFirst (c : Char) : List Char → Option (List Char × List Char)
  | [] => none
  | x :: xs => if x = c then some ([], xs) else (cutFirst c xs).map fun (a, b) => (x :: a, b)

/-- The text after the last occurrence of a character, the whole text when there is none. -/
def afterLast (c : Char) (cs : List Char) : List Char :=
  (cs.reverse.takeWhile (· != c)).reverse

end ScriptedShell.Text
