/-
# What is left of a text

Stripping takes away what it should and nothing else.  From a text that complete control sequences
have been put into, exactly the sequences are taken (`strip_of_decorates`).  From any text at all,
however broken its sequences, plain characters are left in their order, and a text of plain
characters is left as it is (`strip_eq_self_iff`).  Texts can be stripped one by one when no
sequence is open between them, and only then (`strip_append_iff_endsPlain`).
-/
import Mathlib
import ScriptedShell.Proofs.Terminal.Escape

namespace ScriptedShell.Terminal

open Text

/-- Whether a character can be shown, breaks lines or is a tab. -/
def IsPlain (c : Char) : Prop := isControl c = true → c = '\n' ∨ c = '\r' ∨ c = '\t'

instance (c : Char) : Decidable (IsPlain c) := inferInstanceAs (Decidable (_ → _))

/-- Plain characters are those that are kept outside all sequences. -/
theorem keepsPlain_iff {c : Char} : keepsPlain c = true ↔ IsPlain c := by
  rw [keepsPlain, IsPlain]
  cases isControl c <;> simp [or_assoc]

/-- No escape character is plain. -/
theorem not_isPlain_escapeChar : ¬ IsPlain escapeChar := by decide

/-- A plain character begins no sequence. -/
theorem IsPlain.ne_escapeChar {c : Char} (h : IsPlain c) : c ≠ escapeChar :=
  fun heq => not_isPlain_escapeChar (heq ▸ h)

/-! ## Complete control sequences are taken away -/

/-- Whether the second text is the first one, which is plain, with complete control sequences put
into it. -/
inductive Decorates : List Char → List Char → Prop
  | nil : Decorates [] []
  | char {c : Char} {text cs : List Char} : IsPlain c → Decorates text cs →
      Decorates (c :: text) (c :: cs)
  | sequence {front text cs : List Char} : IsCompleteSequence front → Decorates text cs →
      Decorates text (front ++ cs)

/-- A plain character is kept, and plain text follows. -/
theorem strip_cons {c : Char} (h : IsPlain c) (cs : List Char) :
    strip (c :: cs) = c :: strip cs := by
  have hkeeps : ScanState.keeps .plain c = true := keepsPlain_iff.mpr h
  have hnext : ScanState.next .plain c = .plain := if_neg h.ne_escapeChar
  rw [strip, stripFrom, if_pos hkeeps, hnext, strip]

/-- Stripping goes on behind what is crossed. -/
theorem strip_crosses_append {front : List Char} (h : Crosses .plain front .plain)
    (rest : List Char) : strip (front ++ rest) = strip rest := by
  rw [strip, stripFrom_append, h.dropped, h.state, List.nil_append, strip]

/-- What follows a decorated text is stripped as if it stood alone. -/
theorem Decorates.strip_append {text cs : List Char} (h : Decorates text cs) (rest : List Char) :
    strip (cs ++ rest) = text ++ strip rest := by
  induction h with
  | nil => rfl
  | char hc _ ih => rw [List.cons_append, strip_cons hc, ih, List.cons_append]
  | sequence hfront _ ih => rw [List.append_assoc, strip_crosses_append hfront.crosses, ih]

/-- **Exactly the complete control sequences are taken away** from a text that they have been put
into, wherever they stand and whatever stands inside them. -/
theorem strip_of_decorates {text cs : List Char} (h : Decorates text cs) : strip cs = text := by
  have hstrip := h.strip_append []
  rwa [List.append_nil, strip, strip, stripFrom, List.append_nil] at hstrip

/-- Sequences that touch, with the beginnings of other sequences, a line break and escape characters
inside them. -/
theorem strip_of_decorates_touching :
    let title := [escapeChar, ']', '0', ';', '[', 'm', '(', '\n', bellChar]
    let link := [escapeChar, ']', '8', ';', ']', escapeChar, '\\']
    let cs := [escapeChar, '[', escapeChar, '(', '0', 'm'] ++ 'l' :: 's' :: (title ++ (link ++
      ' ' :: ([escapeChar, '(', escapeChar] ++ ([escapeChar, escapeChar] ++ ['m', '\n']))))
    Decorates ['l', 's', ' ', 'm', '\n'] cs ∧ strip cs = ['l', 's', ' ', 'm', '\n'] := by
  intro title link cs
  have htitle : IsCompleteSequence title :=
    .rung ['0', ';', '[', 'm', '(', '\n'] (by simp [InCommand, bellChar, escapeChar])
  have hlink : IsCompleteSequence link :=
    .terminated ['8', ';', ']'] (by simp [InCommand, bellChar, escapeChar])
  have hend : Decorates [' ', 'm', '\n']
      (' ' :: ([escapeChar, '(', escapeChar] ++ ([escapeChar, escapeChar] ++ ['m', '\n']))) :=
    .char (by decide) <| .sequence (.charset '(' escapeChar (by decide) trivial) <|
      .sequence (.short escapeChar trivial (by unfold IsIntroducer; decide)) <|
      .char (by decide) <| .char (by decide) .nil
  have h : Decorates ['l', 's', ' ', 'm', '\n'] cs :=
    .sequence (.parameters [escapeChar, '(', '0'] 'm' (by simp [IsFinal, escapeChar])
        (by decide)) <|
      .char (by decide) <| .char (by decide) <| .sequence htitle <| .sequence hlink hend
  exact ⟨h, strip_of_decorates h⟩

/-! ## Plain characters are left -/

/-- What is kept is plain, in whatever state. -/
theorem isPlain_of_keeps {s : ScanState} {c : Char} (h : s.keeps c = true) : IsPlain c := by
  cases s with
  | plain => exact keepsPlain_iff.mp h
  | commandEnd => exact keepsPlain_iff.mp (Bool.and_eq_true_iff.mp h).2
  | escape | parameters | command | charset => cases h

/-- What is left of a text is plain, wherever the scanner begins. -/
theorem isPlain_of_mem_stripFrom {s : ScanState} {cs : List Char} {c : Char}
    (h : c ∈ stripFrom s cs) : IsPlain c := by
  induction cs generalizing s with
  | nil => cases h
  | cons d cs ih =>
    rw [stripFrom] at h
    split_ifs at h with hkeeps
    · rcases List.mem_cons.mp h with rfl | h
      · exact isPlain_of_keeps hkeeps
      · exact ih h
    · exact ih h

/-- A text of plain characters is left as it is, and only such a text. -/
theorem strip_eq_self_iff {cs : List Char} : strip cs = cs ↔ ∀ c ∈ cs, IsPlain c := by
  constructor
  · intro h c hc
    rw [← h] at hc
    exact isPlain_of_mem_stripFrom hc
  · intro h
    have hescape : escapeChar ∉ cs := fun hmem => not_isPlain_escapeChar (h _ hmem)
    rw [strip_eq_filter hescape, List.filter_eq_self]
    exact fun c hc => keepsPlain_iff.mpr (h c hc)

/-- Nothing is left to be taken away. -/
theorem strip_strip (cs : List Char) : strip (strip cs) = strip cs :=
  strip_eq_self_iff.mpr fun _ hc => isPlain_of_mem_stripFrom hc

/-! ## Texts that end outside all sequences -/

/-- Whether no control sequence is open at the end of a text.  Behind a command that an escape
character ends, a sequence is open until it is clear whether a backslash follows. -/
inductive EndsPlain : List Char → Prop
  | nil : EndsPlain []
  | char {c : Char} {rest : List Char} : c ≠ escapeChar → EndsPlain rest → EndsPlain (c :: rest)
  | sequence {front rest : List Char} : IsCompleteSequence front → EndsPlain rest →
      EndsPlain (front ++ rest)
  /-- A command that an escape character ends without a backslash. -/
  | brokenOff {body rest : List Char} {c : Char} : (∀ d ∈ body, InCommand d) → c ≠ '\\' →
      EndsPlain (c :: rest) →
      EndsPlain (escapeChar :: ']' :: (body ++ escapeChar :: c :: rest))

/-- Without the backslash, what follows the end of a command is plain text. -/
theorem scanState_commandEnd {c : Char} (hc : c ≠ '\\') (rest : List Char) :
    scanState .commandEnd (c :: rest) = scanState .plain (c :: rest) := by
  have hnext : ScanState.next .commandEnd c = ScanState.next .plain c := if_neg hc
  rw [scanState, List.foldl_cons, hnext]
  rfl

/-- The scanner is in plain text when no sequence is open. -/
theorem EndsPlain.scanState_eq {cs : List Char} (h : EndsPlain cs) :
    scanState .plain cs = .plain := by
  induction h with
  | nil => rfl
  | @char c rest hc _ ih =>
    have hnext : ScanState.next .plain c = .plain := if_neg hc
    rw [scanState, List.foldl_cons, hnext]
    exact ih
  | sequence hfront _ ih => rw [scanState_append, hfront.crosses.state, ih]
  | @brokenOff body rest c hbody hc _ ih =>
    have hcommand := (crosses_command hbody).state
    calc scanState .plain (escapeChar :: ']' :: (body ++ escapeChar :: c :: rest))
        = scanState (scanState .plain (escapeChar :: ']' :: body)) (escapeChar :: c :: rest) :=
          scanState_append .plain (escapeChar :: ']' :: body) (escapeChar :: c :: rest)
      _ = scanState .commandEnd (c :: rest) := by rw [hcommand]; rfl
      _ = .plain := by rw [scanState_commandEnd hc, ih]

/-- A scanner that leaves a state does so at a first character. -/
theorem exists_leaving {s : ScanState} {cs : List Char} (h : scanState s cs ≠ s) :
    ∃ body c rest, cs = body ++ c :: rest ∧ (∀ d ∈ body, s.next d = s) ∧ s.next c ≠ s := by
  induction cs with
  | nil => exact absurd rfl h
  | cons c cs ih =>
    by_cases hc : s.next c = s
    · rw [scanState, List.foldl_cons, hc] at h
      obtain ⟨body, d, rest, rfl, hbody, hd⟩ := ih h
      exact ⟨c :: body, d, rest, rfl, List.forall_mem_cons.mpr ⟨hc, hbody⟩, hd⟩
    · exact ⟨[], c, cs, rfl, by simp, hc⟩

/-- A text that leads out of a sequence with parameters has a final character. -/
theorem exists_final {cs : List Char} (h : scanState .parameters cs = .plain) :
    ∃ body final rest, cs = body ++ final :: rest ∧ (∀ d ∈ body, ¬ IsFinal d) ∧ IsFinal final ∧
      scanState .plain rest = .plain := by
  have hleaves : scanState .parameters cs ≠ .parameters := by rw [h]; decide
  obtain ⟨body, final, rest, rfl, hbody, hnext⟩ := exists_leaving hleaves
  have hfinal : IsFinal final := by rwa [ne_eq, next_parameters_eq_iff, not_not] at hnext
  rw [scanState_append, scanState_eq_self hbody, scanState, List.foldl_cons,
    next_parameters_of_isFinal hfinal] at h
  exact ⟨body, final, rest, rfl, fun d hd => next_parameters_eq_iff.mp (hbody d hd), hfinal, h⟩

/-- A text that leads out of a command has a bell, or an escape character and what is after it. -/
theorem exists_commandEnd {cs : List Char} (h : scanState .command cs = .plain) :
    ∃ body rest, (∀ d ∈ body, InCommand d) ∧
      (cs = body ++ bellChar :: rest ∧ scanState .plain rest = .plain ∨
        cs = body ++ escapeChar :: rest ∧ scanState .commandEnd rest = .plain) := by
  have hleaves : scanState .command cs ≠ .command := by rw [h]; decide
  obtain ⟨body, c, rest, rfl, hbody, hnext⟩ := exists_leaving hleaves
  refine ⟨body, rest, fun d hd => next_command_eq_iff.mp (hbody d hd), ?_⟩
  rw [scanState_append, scanState_eq_self hbody] at h
  have hc : c = bellChar ∨ c = escapeChar := by
    rwa [ne_eq, next_command_eq_iff, InCommand, not_and_or, not_not, not_not] at hnext
  rcases hc with rfl | rfl
  · exact .inl ⟨rfl, h⟩
  · exact .inr ⟨rfl, h⟩

/-- Where a sequence stands at the front, no other one is open at the end of the text when none is
open at the end of what follows the sequence. -/
theorem EndsPlain.of_escape {c : Char} {cs : List Char}
    (h : scanState .plain (escapeChar :: c :: cs) = .plain)
    (ih : ∀ {rest : List Char}, rest.length ≤ cs.length → scanState .plain rest = .plain →
      EndsPlain rest) : EndsPlain (escapeChar :: c :: cs) := by
  change scanState (ScanState.next .escape c) cs = .plain at h
  by_cases hopen : c = '['
  · subst hopen
    obtain ⟨body, final, rest, rfl, hbody, hfinal, hrest⟩ := exists_final h
    rw [show escapeChar :: '[' :: (body ++ final :: rest) =
      (escapeChar :: '[' :: (body ++ [final])) ++ rest by simp]
    have hfront : IsCompleteSequence (escapeChar :: '[' :: (body ++ [final])) :=
      .parameters body final (fun d hd => ⟨trivial, hbody d hd⟩) hfinal
    exact .sequence hfront (ih (by simp; omega) hrest)
  by_cases hcommand : c = ']'
  · subst hcommand
    obtain ⟨body, rest, hbody, ⟨rfl, hrest⟩ | ⟨rfl, hrest⟩⟩ := exists_commandEnd h
    · rw [show escapeChar :: ']' :: (body ++ bellChar :: rest) =
        (escapeChar :: ']' :: (body ++ [bellChar])) ++ rest by simp]
      exact .sequence (.rung body fun d hd => ⟨trivial, hbody d hd⟩) (ih (by simp; omega) hrest)
    · cases rest with
      | nil => cases hrest
      | cons d rest =>
        by_cases hd : d = '\\'
        · subst hd
          rw [show escapeChar :: ']' :: (body ++ escapeChar :: '\\' :: rest) =
            (escapeChar :: ']' :: (body ++ [escapeChar, '\\'])) ++ rest by simp]
          exact .sequence (.terminated body fun d hd => ⟨trivial, hbody d hd⟩)
            (ih (by simp; omega) hrest)
        · rw [scanState_commandEnd hd] at hrest
          exact .brokenOff hbody hd (ih (by simp; omega) hrest)
  by_cases hcharset : c = '(' ∨ c = ')' ∨ c = '*' ∨ c = '+'
  · have hnext : ScanState.next .escape c = .charset := by
      rcases hcharset with rfl | rfl | rfl | rfl <;> rfl
    rw [hnext] at h
    cases cs with
    | nil => cases h
    | cons name rest => exact .sequence (.charset c name hcharset trivial) (ih (by simp) h)
  · have hshort : ¬ IsIntroducer c := by
      rintro (hc | hc | hc)
      · exact hopen hc
      · exact hcommand hc
      · exact hcharset hc
    rw [next_escape_of_not_isIntroducer hshort] at h
    exact .sequence (.short c trivial hshort) (ih le_rfl h)

/-- No sequence is open when the scanner is in plain text. -/
theorem endsPlain_of_scanState {cs : List Char} (h : scanState .plain cs = .plain) :
    EndsPlain cs := by
  -- behind a sequence the text is shorter by more than its first character
  induction hlength : cs.length using Nat.strong_induction_on generalizing cs with
  | _ n ih =>
    have ih' : ∀ {rest : List Char}, rest.length < cs.length → scanState .plain rest = .plain →
        EndsPlain rest := fun hlt hrest => ih _ (hlength ▸ hlt) hrest rfl
    cases cs with
    | nil => exact .nil
    | cons first cs =>
      by_cases hfirst : first = escapeChar
      · subst hfirst
        cases cs with
        | nil => cases h
        | cons c cs => exact .of_escape h fun hle hrest => ih' (by simp; omega) hrest
      · have hnext : ScanState.next .plain first = .plain := if_neg hfirst
        rw [scanState, List.foldl_cons, hnext] at h
        exact .char hfirst (ih' (by simp) h)

/-- Outside plain text a backslash is not kept. -/
theorem eq_plain_of_keeps {s : ScanState} (h : s.keeps '\\' = true) : s = .plain := by
  cases s <;> first | rfl | cases h

/-- **Texts are stripped one by one** when no sequence is open between them, and only then: what is
open at the end of a text swallows a backslash that follows. -/
theorem strip_append_iff_endsPlain {cs : List Char} :
    (∀ rest, strip (cs ++ rest) = strip cs ++ strip rest) ↔ EndsPlain cs := by
  constructor
  · intro h
    have hrest : stripFrom (scanState .plain cs) ['\\'] = ['\\'] := by
      have hcut := h ['\\']
      rw [strip, stripFrom_append] at hcut
      exact List.append_cancel_left hcut
    apply endsPlain_of_scanState
    apply eq_plain_of_keeps
    by_contra hkeeps
    rw [stripFrom, if_neg hkeeps] at hrest
    cases hrest
  · intro h rest
    rw [strip, stripFrom_append, h.scanState_eq]
    rfl

/-- A backslash belongs to the command before it, unless the command stands alone. -/
example : strip ([escapeChar, ']', '0', escapeChar] ++ ['\\']) = [] ∧
    strip [escapeChar, ']', '0', escapeChar] ++ strip ['\\'] = ['\\'] := by decide

/-- **Stripping leaves clean text.**  Of any text, however broken its sequences, no escape character
and no control character but line breaks and tabs is left, nothing is put in or moved, and only a
text without such characters is left as it is, so that stripping again takes nothing.  Texts are
stripped one by one when no sequence is open between them, and only then. -/
theorem strip_leaves_clean_text (cs : List Char) :
    (escapeChar ∉ strip cs ∧
        ∀ c ∈ strip cs, isControl c = true → c = '\n' ∨ c = '\r' ∨ c = '\t') ∧
      (strip cs).Sublist cs ∧
      (strip cs = cs ↔ ∀ c ∈ cs, isControl c = true → c = '\n' ∨ c = '\r' ∨ c = '\t') ∧
      strip (strip cs) = strip cs ∧
      ((∀ rest, strip (cs ++ rest) = strip cs ++ strip rest) ↔ EndsPlain cs) := by
  have hplain : ∀ c ∈ strip cs, IsPlain c := fun c hc => isPlain_of_mem_stripFrom hc
  have hescape : escapeChar ∉ strip cs := fun hmem => not_isPlain_escapeChar (hplain _ hmem)
  exact ⟨⟨hescape, hplain⟩, stripFrom_sublist .plain cs, strip_eq_self_iff, strip_strip cs,
    strip_append_iff_endsPlain⟩

end ScriptedShell.Terminal
