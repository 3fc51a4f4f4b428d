/-
# Stripping piece by piece

Stripping only leaves characters out.  At a line break outside all control sequences the scanner
is back in plain text, so a text can be stripped line by line.

Behind a complete control sequence the scanner is back in plain text, whatever characters stand
inside it, and nothing of it is kept (`IsSequence.crosses`).  A decorated text is one line
of characters and complete control sequences.  The scanner is back in plain text at its end, and
also when it begins inside one of the sequences: what is left of a sequence is then plain text
(`IsDecorated.scanState_suffix`).
-/
import Mathlib
import ScriptedShell.Terminal.Escape

namespace ScriptedShell.Terminal

open Text

/-- Whether the scanner is inside a control sequence, so that the next character belongs to it. -/
def ScanState.isOpen : ScanState → Bool
  | .plain | .commandEnd => false
  | .escape | .parameters | .command | .charset => true

/-- Stripping leaves characters out and does nothing else. -/
theorem stripFrom_sublist (s : ScanState) (cs : List Char) : (stripFrom s cs).Sublist cs := by
  induction cs generalizing s with
  | nil => exact .slnil
  | cons c cs ih =>
    rw [stripFrom]
    split_ifs
    · exact (ih _).cons_cons c
    · exact (ih _).cons c

/-- Outside all sequences a line break is kept, and plain text follows. -/
theorem stripFrom_break {s : ScanState} (hs : s.isOpen = false) {c : Char}
    (hc : isLineBreak c = true) : s.keeps c = true ∧ s.next c = .plain := by
  rw [isLineBreak, Bool.or_eq_true, decide_eq_true_eq, decide_eq_true_eq] at hc
  rcases hc with rfl | rfl <;> cases s <;> first | exact ⟨rfl, rfl⟩ | cases hs

/-- The scanner goes on in plain text after a line break outside all sequences. -/
theorem scanState_append_break {front : List Char}
    (hfront : (scanState .plain front).isOpen = false) {c : Char} (hc : isLineBreak c = true)
    (rest : List Char) :
    scanState .plain (front ++ c :: rest) = scanState .plain rest := by
  rw [scanState, List.foldl_append, List.foldl_cons]
  exact congrArg (List.foldl ScanState.next · rest) (stripFrom_break hfront hc).2

/-- **Stripping can be cut at a line break outside all sequences.** -/
theorem strip_append_break {front : List Char} (hfront : (scanState .plain front).isOpen = false)
    {c : Char} (hc : isLineBreak c = true) (rest : List Char) :
    strip (front ++ c :: rest) = strip front ++ c :: strip rest := by
  obtain ⟨hkeeps, hnext⟩ := stripFrom_break hfront hc
  rw [strip, stripFrom_append, stripFrom, if_pos hkeeps, hnext]
  rfl

/-- Without escape characters, stripping leaves out single characters. -/
theorem strip_eq_filter {cs : List Char} (h : escapeChar ∉ cs) : strip cs = cs.filter keepsPlain := by
  induction cs with
  | nil => rfl
  | cons c cs ih =>
    rw [List.mem_cons, not_or] at h
    have hnext : ScanState.next .plain c = .plain := if_neg (Ne.symm h.1)
    rw [strip, stripFrom, hnext, ← strip, ih h.2, List.filter_cons]
    rfl

/-- Without escape characters, texts are stripped one by one. -/
theorem strip_append {front back : List Char} (h : escapeChar ∉ front ++ back) :
    strip (front ++ back) = strip front ++ strip back := by
  rw [List.mem_append, not_or] at h
  rw [strip_eq_filter (by simpa using h), List.filter_append, strip_eq_filter h.1,
    strip_eq_filter h.2]

/-! ## Complete control sequences -/

/-- Whether a character ends a sequence with parameters. -/
def IsFinal (c : Char) : Prop := '@' ≤ c ∧ c ≤ '~'

/-- Whether a character says, right after an escape character, what kind of longer sequence it
begins. -/
def IsIntroducer (c : Char) : Prop := c = '[' ∨ c = ']' ∨ c = '(' ∨ c = ')' ∨ c = '*' ∨ c = '+'

instance (c : Char) : Decidable (IsFinal c) := inferInstanceAs (Decidable (_ ∧ _))

/-- Whether a character goes on with an operating-system command. -/
def InCommand (c : Char) : Prop := c ≠ bellChar ∧ c ≠ escapeChar

instance (c : Char) : Decidable (InCommand c) := inferInstanceAs (Decidable (_ ∧ _))

/-- Whether a text is one complete control sequence with characters of some kind inside it. -/
inductive IsSequence (Inner : Char → Prop) : List Char → Prop
  /-- Parameters, and what ends them. -/
  | parameters (body : List Char) (final : Char) : (∀ c ∈ body, Inner c ∧ ¬ IsFinal c) →
      IsFinal final → IsSequence Inner (escapeChar :: '[' :: (body ++ [final]))
  /-- An operating-system command that a bell ends. -/
  | rung (body : List Char) : (∀ c ∈ body, Inner c ∧ InCommand c) →
      IsSequence Inner (escapeChar :: ']' :: (body ++ [bellChar]))
  /-- An operating-system command that an escape character and a backslash end. -/
  | terminated (body : List Char) : (∀ c ∈ body, Inner c ∧ InCommand c) →
      IsSequence Inner (escapeChar :: ']' :: (body ++ [escapeChar, '\\']))
  /-- The name of a character set. -/
  | charset (kind name : Char) : kind = '(' ∨ kind = ')' ∨ kind = '*' ∨ kind = '+' →
      Inner name → IsSequence Inner [escapeChar, kind, name]
  /-- A single character. -/
  | short (c : Char) : Inner c → ¬ IsIntroducer c → IsSequence Inner [escapeChar, c]

/-- Whether a text is one complete control sequence, whatever the characters inside it. -/
abbrev IsCompleteSequence : List Char → Prop := IsSequence fun _ => True

theorem scanState_append (s : ScanState) (front rest : List Char) :
    scanState s (front ++ rest) = scanState (scanState s front) rest :=
  List.foldl_append

/-- A scanner stays in a state that the characters do not lead out of. -/
theorem scanState_eq_self {s : ScanState} {cs : List Char} (h : ∀ c ∈ cs, s.next c = s) :
    scanState s cs = s := by
  induction cs with
  | nil => rfl
  | cons c cs ih =>
    rw [scanState, List.foldl_cons, h c List.mem_cons_self]
    exact ih fun d hd => h d (List.mem_cons_of_mem c hd)

/-- Whether a text leads from one state to another, and nothing of it is kept. -/
structure Crosses (s : ScanState) (cs : List Char) (t : ScanState) : Prop where
  state : scanState s cs = t
  dropped : stripFrom s cs = []

/-- Texts are crossed one after the other. -/
theorem Crosses.append {s t u : ScanState} {front rest : List Char} (hfront : Crosses s front t)
    (hrest : Crosses t rest u) : Crosses s (front ++ rest) u where
  state := by rw [scanState_append, hfront.state, hrest.state]
  dropped := by
    rw [stripFrom_append, hfront.state, hfront.dropped, hrest.dropped, List.append_nil]

/-- Inside a sequence nothing is kept. -/
theorem keeps_eq_false_of_isOpen {s : ScanState} (hs : s.isOpen = true) (c : Char) :
    s.keeps c = false := by
  cases s <;> first | rfl | cases hs

/-- Characters that a sequence goes on with are crossed. -/
theorem crosses_of_next {s : ScanState} (hs : s.isOpen = true) {cs : List Char}
    (h : ∀ c ∈ cs, s.next c = s) : Crosses s cs s where
  state := scanState_eq_self h
  dropped := by
    induction cs with
    | nil => rfl
    | cons c cs ih =>
      obtain ⟨hc, hcs⟩ := List.forall_mem_cons.mp h
      rw [stripFrom, if_neg (by simp [keeps_eq_false_of_isOpen hs]), hc]
      exact ih hcs

/-- All characters but the final ones are parameters. -/
theorem next_parameters_eq_iff {c : Char} :
    ScanState.next .parameters c = .parameters ↔ ¬ IsFinal c := by
  simp [ScanState.next, IsFinal]

/-- A final character ends a sequence with parameters. -/
theorem next_parameters_of_isFinal {c : Char} (h : IsFinal c) :
    ScanState.next .parameters c = .plain :=
  if_pos (by simpa [IsFinal] using h)

/-- An operating-system command goes on up to a bell or an escape character. -/
theorem next_command_eq_iff {c : Char} : ScanState.next .command c = .command ↔ InCommand c := by
  rw [ScanState.next, InCommand]
  split_ifs <;> simp_all

/-- After an escape character, a character that introduces nothing ends the sequence. -/
theorem next_escape_of_not_isIntroducer {c : Char} (h : ¬ IsIntroducer c) :
    ScanState.next .escape c = .plain := by
  simp only [IsIntroducer, not_or] at h
  obtain ⟨hopen, hcommand, hleft, hright, hstar, hplus⟩ := h
  simp [ScanState.next, hopen, hcommand, hleft, hright, hstar, hplus]

/-- The beginning of an operating-system command is crossed, and the command goes on. -/
theorem crosses_command {body : List Char} (h : ∀ c ∈ body, InCommand c) :
    Crosses .plain (escapeChar :: ']' :: body) .command := by
  have hopen : Crosses .plain [escapeChar, ']'] .command := ⟨rfl, rfl⟩
  exact hopen.append (crosses_of_next rfl fun c hc => next_command_eq_iff.mpr (h c hc))

/-- **A complete control sequence is crossed**: nothing of it is kept, and plain text follows. -/
theorem IsSequence.crosses {Inner : Char → Prop} {cs : List Char} (h : IsSequence Inner cs) :
    Crosses .plain cs .plain := by
  cases h with
  | parameters body final hbody hfinal =>
    have hopen : Crosses .plain [escapeChar, '['] .parameters := ⟨rfl, rfl⟩
    have hstay : Crosses .parameters body .parameters :=
      crosses_of_next rfl fun c hc => next_parameters_eq_iff.mpr (hbody c hc).2
    have hend : Crosses .parameters [final] .plain := ⟨next_parameters_of_isFinal hfinal, rfl⟩
    exact hopen.append (hstay.append hend)
  | rung body hbody =>
    have hend : Crosses .command [bellChar] .plain := ⟨rfl, rfl⟩
    exact (crosses_command fun c hc => (hbody c hc).2).append hend
  | terminated body hbody =>
    have hend : Crosses .command [escapeChar, '\\'] .plain := ⟨rfl, rfl⟩
    exact (crosses_command fun c hc => (hbody c hc).2).append hend
  | charset kind name hkind _ => rcases hkind with rfl | rfl | rfl | rfl <;> exact ⟨rfl, rfl⟩
  | short c _ hintroducer => exact ⟨next_escape_of_not_isIntroducer hintroducer, rfl⟩

/-! ## Decorated text -/

/-- Whether a character neither begins a control sequence nor breaks lines. -/
def IsInline (c : Char) : Prop := c ≠ escapeChar ∧ isLineBreak c = false

/-- Whether a text is a line of characters and complete control sequences. -/
inductive IsDecorated : List Char → Prop
  | nil : IsDecorated []
  | char {c : Char} {rest : List Char} : IsInline c → IsDecorated rest → IsDecorated (c :: rest)
  | sequence {front rest : List Char} : IsSequence IsInline front → IsDecorated rest →
      IsDecorated (front ++ rest)

instance (c : Char) : Decidable (IsInline c) := inferInstanceAs (Decidable (_ ∧ _))

/-- A line without control sequences is decorated text. -/
theorem isDecorated_append {front rest : List Char} (hfront : ∀ c ∈ front, IsInline c)
    (hrest : IsDecorated rest) : IsDecorated (front ++ rest) := by
  induction front with
  | nil => exact hrest
  | cons c front ih =>
    exact .char (hfront c List.mem_cons_self) (ih fun d hd => hfront d (List.mem_cons_of_mem c hd))

/-! ## Scanning -/

/-- Without an escape character, plain text goes on. -/
theorem scanState_plain {cs : List Char} (h : ∀ c ∈ cs, c ≠ escapeChar) :
    scanState .plain cs = .plain :=
  scanState_eq_self fun c hc => if_neg (h c hc)

/-- When a text leads to plain text and only its first character may be an escape character, its end
leads to plain text, too. -/
theorem scanState_suffix_cons {c : Char} {cs rest : List Char}
    (hwhole : scanState .plain (c :: cs) = .plain) (hcs : ∀ d ∈ cs, d ≠ escapeChar)
    (hrest : rest <:+ c :: cs) : scanState .plain rest = .plain := by
  rcases List.suffix_cons_iff.mp hrest with rfl | hrest
  · exact hwhole
  · exact scanState_plain fun d hd => hcs d (hrest.mem hd)

/-- The end of two lists put together is the end of the second, or of the first with all of the
second. -/
theorem suffix_append_cases {α : Type} {rest front back : List α} (h : rest <:+ front ++ back) :
    rest <:+ back ∨ ∃ part, part <:+ front ∧ rest = part ++ back := by
  rcases List.suffix_or_suffix_of_suffix h (List.suffix_append front back) with hrest | hback
  · exact .inl hrest
  · obtain ⟨part, rfl⟩ := hback
    obtain ⟨before, hbefore⟩ := h
    rw [← List.append_assoc] at hbefore
    exact .inr ⟨part, ⟨before, List.append_cancel_right hbefore⟩, rfl⟩

/-- The end of a control sequence leads to plain text, too: without the beginning of the sequence it
is plain text, or the escape character and the backslash that end a command. -/
theorem IsSequence.scanState_suffix {cs rest : List Char} (h : IsSequence IsInline cs)
    (hrest : rest <:+ cs) : scanState .plain rest = .plain := by
  have hwhole := h.crosses.state
  have hfinal : ¬ IsFinal escapeChar := by unfold IsFinal; decide
  cases h with
  | parameters body final hbody hend =>
    refine scanState_suffix_cons hwhole (fun c hc => ?_) hrest
    simp only [List.mem_cons, List.mem_append, List.not_mem_nil, or_false] at hc
    rcases hc with rfl | hc | rfl
    · decide
    · exact (hbody c hc).1.1
    · rintro rfl
      exact hfinal hend
  | rung body hbody =>
    refine scanState_suffix_cons hwhole (fun c hc => ?_) hrest
    simp only [List.mem_cons, List.mem_append, List.not_mem_nil, or_false] at hc
    rcases hc with rfl | hc | rfl
    · decide
    · exact (hbody c hc).1.1
    · decide
  | terminated body hbody =>
    rcases List.suffix_cons_iff.mp hrest with rfl | hrest
    · exact hwhole
    · rw [← List.cons_append] at hrest
      rcases suffix_append_cases hrest with hrest | ⟨part, hpart, rfl⟩
      · -- at most the escape character and the backslash are left
        simp only [List.suffix_cons_iff, List.suffix_nil] at hrest
        rcases hrest with rfl | rfl | rfl <;> rfl
      · have hplain : scanState .plain part = .plain := by
          refine scanState_plain fun c hc => ?_
          rcases List.mem_cons.mp (hpart.mem hc) with rfl | hmem
          · decide
          · exact (hbody c hmem).1.1
        rw [scanState_append, hplain]
        rfl
  | charset kind name hkind hname =>
    refine scanState_suffix_cons hwhole (fun c hc => ?_) hrest
    simp only [List.mem_cons, List.not_mem_nil, or_false] at hc
    rcases hc with rfl | rfl
    · rcases hkind with rfl | rfl | rfl | rfl <;> decide
    · exact hname.1
  | short c hc hintroducer =>
    refine scanState_suffix_cons hwhole (fun d hd => ?_) hrest
    obtain rfl := List.mem_singleton.mp hd
    exact hc.1

/-- **However much of its beginning is missing, a decorated text leads to plain text.** -/
theorem IsDecorated.scanState_suffix {cs rest : List Char} (h : IsDecorated cs)
    (hrest : rest <:+ cs) : scanState .plain rest = .plain := by
  induction h generalizing rest with
  | nil => rw [List.suffix_nil.mp hrest]; rfl
  | @char c cs hc _ ih =>
    rcases List.suffix_cons_iff.mp hrest with rfl | hrest
    · have hnext : ScanState.next .plain c = .plain := if_neg hc.1
      rw [scanState, List.foldl_cons, hnext]
      exact ih List.suffix_rfl
    · exact ih hrest
  | @sequence front cs hfront _ ih =>
    rcases suffix_append_cases hrest with hrest | ⟨part, hpart, rfl⟩
    · exact ih hrest
    · rw [scanState_append, hfront.scanState_suffix hpart]
      exact ih List.suffix_rfl

/-! ## Line breaks -/

/-- A control sequence does not break lines. -/
theorem IsSequence.not_isLineBreak {cs : List Char} (h : IsSequence IsInline cs) {c : Char}
    (hc : c ∈ cs) : isLineBreak c = false := by
  cases h with
  | parameters body final hbody hfinal =>
    simp only [List.mem_cons, List.mem_append, List.not_mem_nil, or_false] at hc
    rcases hc with rfl | rfl | hc | rfl
    · decide
    · decide
    · exact (hbody c hc).1.2
    · rw [← Bool.not_eq_true, isLineBreak, Bool.or_eq_true, decide_eq_true_eq, decide_eq_true_eq]
      rintro (rfl | rfl)
      · revert hfinal; unfold IsFinal; decide
      · revert hfinal; unfold IsFinal; decide
  | rung body hbody =>
    simp only [List.mem_cons, List.mem_append, List.not_mem_nil, or_false] at hc
    rcases hc with rfl | rfl | hc | rfl
    · decide
    · decide
    · exact (hbody c hc).1.2
    · decide
  | terminated body hbody =>
    simp only [List.mem_cons, List.mem_append, List.not_mem_nil, or_false] at hc
    rcases hc with rfl | rfl | hc | rfl | rfl
    · decide
    · decide
    · exact (hbody c hc).1.2
    · decide
    · decide
  | charset kind name hkind hname =>
    simp only [List.mem_cons, List.not_mem_nil, or_false] at hc
    rcases hc with rfl | rfl | rfl
    · decide
    · rcases hkind with rfl | rfl | rfl | rfl <;> decide
    · exact hname.2
  | short d hd _ =>
    simp only [List.mem_cons, List.not_mem_nil, or_false] at hc
    rcases hc with rfl | rfl
    · decide
    · exact hd.2

/-- A decorated text does not break lines. -/
theorem IsDecorated.not_isLineBreak {cs : List Char} (h : IsDecorated cs) {c : Char}
    (hc : c ∈ cs) : isLineBreak c = false := by
  induction h with
  | nil => cases hc
  | char hd _ ih =>
    rcases List.mem_cons.mp hc with rfl | hc
    · exact hd.2
    · exact ih hc
  | sequence hfront _ ih =>
    rcases List.mem_append.mp hc with hc | hc
    · exact hfront.not_isLineBreak hc
    · exact ih hc

end ScriptedShell.Terminal
