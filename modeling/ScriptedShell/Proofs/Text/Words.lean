/-
# Words

The words of a text are its pieces between blanks, the empty ones left out.  A blank in a text
therefore stands between the words before it and the words after it, and blanks at the two ends of
a text belong to no word, and words put together with single spaces are read again as they were.
-/
import Mathlib
import ScriptedShell.Proofs.Text.Lines
import ScriptedShell.Text.Blank

namespace ScriptedShell.Text

/-- The pieces of a text that are not empty. -/
def nonempty (pieces : List (List Char)) : List (List Char) := pieces.filter fun t => !t.isEmpty

/-- A piece that is not empty stays. -/
theorem nonempty_cons {t : List Char} (ht : t ≠ []) (pieces : List (List Char)) :
    nonempty (t :: pieces) = t :: nonempty pieces := by
  simp [nonempty, ht]

/-- Runs and pieces go along: a text that begins with a word has it as its first piece, and a text
that does not has an empty first piece. -/
theorem runs_pieces (cs : List Char) :
    ∃ piece pieces, splitAtEach isBlank cs = piece :: pieces ∧
      ((∃ rest, piece ≠ [] ∧ runs cs = .word piece :: rest ∧
          rest.filterMap Run.word? = nonempty pieces) ∨
        (piece = [] ∧ (∀ t rest, runs cs ≠ .word t :: rest) ∧
          (runs cs).filterMap Run.word? = nonempty pieces)) := by
  induction cs with
  | nil => exact ⟨[], [], rfl, .inr ⟨rfl, by simp [runs], rfl⟩⟩
  | cons c cs ih =>
    obtain ⟨piece, pieces, hsplit, ⟨rest, hne, hruns, hrest⟩ | ⟨rfl, hgap, hrest⟩⟩ := ih
    · rw [splitAtEach, runs, hsplit, hruns, consRun]
      split_ifs with hc
      · -- a blank in front of a word is a gap of its own
        refine ⟨[], piece :: pieces, rfl, .inr ⟨rfl, by simp, ?_⟩⟩
        rw [nonempty_cons hne, ← hrest]
        rfl
      · exact ⟨c :: piece, pieces, rfl, .inl ⟨rest, List.cons_ne_nil c piece, rfl, hrest⟩⟩
    · rw [splitAtEach, runs, hsplit]
      cases hruns : runs cs with
      | nil =>
        rw [hruns] at hrest
        rw [consRun]
        split_ifs with hc
        · exact ⟨[], [] :: pieces, rfl, .inr ⟨rfl, by simp, hrest⟩⟩
        · exact ⟨[c], pieces, rfl, .inl ⟨[], List.cons_ne_nil c [], rfl, hrest⟩⟩
      | cons r rest =>
        rw [hruns] at hrest
        cases r with
        | word t => exact absurd hruns (hgap t rest)
        | gap t =>
          rw [consRun]
          split_ifs with hc
          · exact ⟨[], [] :: pieces, rfl, .inr ⟨rfl, by simp, hrest⟩⟩
          · exact ⟨[c], pieces, rfl, .inl ⟨.gap t :: rest, List.cons_ne_nil c [], rfl, hrest⟩⟩

/-- The words of a text are its pieces between blanks that are not empty. -/
theorem words_eq_nonempty (cs : List Char) : words cs = nonempty (splitAtEach isBlank cs) := by
  obtain ⟨piece, pieces, hsplit, ⟨rest, hne, hruns, hrest⟩ | ⟨rfl, -, hrest⟩⟩ := runs_pieces cs
  · rw [words, hruns, hsplit, nonempty_cons hne, ← hrest]
    rfl
  · rw [words, hsplit, hrest]
    rfl

@[simp] theorem words_nil : words [] = [] := rfl

/-- A blank stands between the words before it and the words after it. -/
theorem words_append_cons (front : List Char) {c : Char} (hc : isBlank c = true)
    (rest : List Char) : words (front ++ c :: rest) = words front ++ words rest := by
  simp only [words_eq_nonempty, splitAtEach_append_cons front hc rest, nonempty,
    List.filter_append]

/-- A blank in front of a text belongs to no word. -/
theorem words_cons_blank {c : Char} (hc : isBlank c = true) (cs : List Char) :
    words (c :: cs) = words cs := words_append_cons [] hc cs

/-- A text that begins with another character has a word that begins with it. -/
theorem words_cons_of_not_blank {c : Char} (hc : isBlank c = false) (cs : List Char) :
    ∃ word more, words (c :: cs) = (c :: word) :: more := by
  obtain ⟨piece, pieces, hsplit, -⟩ := runs_pieces cs
  refine ⟨piece, nonempty pieces, ?_⟩
  rw [words_eq_nonempty, splitAtEach, if_neg (by rw [hc]; exact Bool.false_ne_true), hsplit]
  exact nonempty_cons (List.cons_ne_nil c piece) pieces

/-- Blanks in front of a text make no difference to its words. -/
theorem words_dropWhile_blank (cs : List Char) : words (cs.dropWhile isBlank) = words cs := by
  induction cs with
  | nil => rfl
  | cons c cs ih =>
    rw [List.dropWhile_cons]
    split_ifs with hc
    · rw [ih, words_cons_blank hc]
    · rfl

/-- A text of blanks has no words. -/
theorem wordsOf_of_isBlankText {s : String} (h : isBlankText s = true) : wordsOf s = [] := by
  have hall : ∀ c ∈ s.toList, isBlank c = true := List.all_eq_true.mp h
  rw [wordsOf, ← words_dropWhile_blank, List.dropWhile_eq_nil_iff.mpr hall]
  rfl

/-- Blanks after a text make no difference to its words. -/
theorem words_trimEnd (cs : List Char) : words (trimEnd cs) = words cs := by
  induction cs using List.reverseRecOn with
  | nil => rfl
  | append_singleton cs c ih =>
    by_cases hc : isBlank c = true
    · have hdrop : trimEnd (cs ++ [c]) = trimEnd cs := List.rdropWhile_concat_pos _ _ _ hc
      rw [hdrop, ih, words_append_cons cs hc, words_nil, List.append_nil]
    · have hkeep : trimEnd (cs ++ [c]) = cs ++ [c] := List.rdropWhile_concat_neg _ _ _ hc
      rw [hkeep]

/-- Trimming a text keeps its words. -/
@[simp] theorem words_trim (cs : List Char) : words (trim cs) = words cs := by
  rw [trim, words_trimEnd, words_dropWhile_blank]

/-- Trimming a string keeps its words. -/
@[simp] theorem wordsOf_trimmed (s : String) : wordsOf (trimmed s) = wordsOf s := by
  rw [wordsOf, trimmed, String.toList_ofList, words_trim, wordsOf]

/-! ## Texts that are words -/

/-- Whether a text is a word: it is not empty and holds no blank. -/
def IsWord (cs : List Char) : Prop := cs ≠ [] ∧ ∀ c ∈ cs, isBlank c = false

/-- A text that is a word is its only word. -/
theorem IsWord.words_eq {cs : List Char} (h : IsWord cs) : words cs = [cs] := by
  rw [words_eq_nonempty, splitAtEach_eq_singleton h.2, nonempty_cons h.1]
  rfl

/-- A string that is a word is its only word. -/
theorem wordsOf_eq_singleton {word : String} (h : IsWord word.toList) : wordsOf word = [word] := by
  rw [wordsOf, h.words_eq, List.map_singleton, String.ofList_toList]

/-- The words of a text are words. -/
theorem isWord_of_mem_words {cs word : List Char} (h : word ∈ words cs) : IsWord word := by
  rw [words_eq_nonempty, nonempty, List.mem_filter] at h
  obtain ⟨hmem, hne⟩ := h
  exact ⟨by simpa using hne, fun c hc => eq_false_of_mem_splitAtEach hmem hc⟩

/-- The words of a string are words. -/
theorem isWord_of_mem_wordsOf {s word : String} (h : word ∈ wordsOf s) : IsWord word.toList := by
  obtain ⟨cs, hcs, rfl⟩ := List.mem_map.mp h
  rw [String.toList_ofList]
  exact isWord_of_mem_words hcs

/-- Blanks in front of a text belong to no word. -/
theorem words_blanks_append {gap : List Char} (hgap : ∀ c ∈ gap, isBlank c = true)
    (cs : List Char) : words (gap ++ cs) = words cs := by
  induction gap with
  | nil => rfl
  | cons c gap ih =>
    rw [List.cons_append, words_cons_blank (hgap c List.mem_cons_self),
      ih fun d hd => hgap d (List.mem_cons_of_mem c hd)]

/-- Blanks are no words. -/
theorem words_blanks {gap : List Char} (hgap : ∀ c ∈ gap, isBlank c = true) : words gap = [] := by
  have hgap' := words_blanks_append hgap []
  rwa [List.append_nil] at hgap'

/-- Blanks after a text belong to no word. -/
theorem words_append_blanks {gap : List Char} (hgap : ∀ c ∈ gap, isBlank c = true)
    (front : List Char) : words (front ++ gap) = words front := by
  cases gap with
  | nil => rw [List.append_nil]
  | cons c gap =>
    rw [words_append_cons front (hgap c List.mem_cons_self),
      words_blanks fun d hd => hgap d (List.mem_cons_of_mem c hd), List.append_nil]

/-- A gap stands between the words before it and the words after it. -/
theorem words_append_gap {gap : List Char} (hne : gap ≠ []) (hgap : ∀ c ∈ gap, isBlank c = true)
    (front rest : List Char) : words (front ++ (gap ++ rest)) = words front ++ words rest := by
  obtain ⟨c, gap, rfl⟩ := List.exists_cons_of_ne_nil hne
  rw [List.cons_append, words_append_cons front (hgap c List.mem_cons_self),
    words_blanks_append fun d hd => hgap d (List.mem_cons_of_mem c hd)]

/-- Words put together with single spaces are the words of the text. -/
theorem wordsOf_intercalate {ws : List String} (hws : ∀ word ∈ ws, IsWord word.toList) :
    wordsOf (String.intercalate " " ws) = ws := by
  have hsingle : ∀ word ∈ ws, words word.toList = [word.toList] := fun word hword =>
    (hws word hword).words_eq
  have hspace : ∀ c ∈ " ".toList, isBlank c = true := by simp [isBlank]
  induction ws with
  | nil => rfl
  | cons word ws ih =>
    have hrest := ih (fun other hother => hws other (List.mem_cons_of_mem word hother))
      fun other hother => hsingle other (List.mem_cons_of_mem word hother)
    have hword := hsingle word List.mem_cons_self
    cases ws with
    | nil =>
      rw [String.intercalate_singleton, wordsOf, hword, List.map_singleton, String.ofList_toList]
    | cons second ws =>
      rw [String.intercalate_cons_cons, wordsOf, String.toList_append, String.toList_append,
        List.append_assoc, words_append_gap (by decide) hspace, List.map_append, hword,
        List.map_singleton, String.ofList_toList, ← wordsOf, hrest, List.singleton_append]

/-! ## Phrases -/

/-- Whether a text is words with a property, at least one, with single spaces between them. -/
def IsPhrase (P : String → Prop) (text : String) : Prop :=
  ∃ ws : List String, ws ≠ [] ∧ (∀ word ∈ ws, IsWord word.toList ∧ P word) ∧
    text = String.intercalate " " ws

namespace IsPhrase

variable {P : String → Prop} {text : String}

/-- The words of a phrase have its property. -/
theorem of_mem_wordsOf (h : IsPhrase P text) {word : String} (hword : word ∈ wordsOf text) :
    P word := by
  obtain ⟨ws, -, hws, rfl⟩ := h
  rw [wordsOf_intercalate fun w hw => (hws w hw).1] at hword
  exact (hws word hword).2

/-- A phrase begins with its first word. -/
theorem exists_first (h : IsPhrase P text) :
    ∃ first more, wordsOf text = first :: more ∧ P first ∧ IsWord first.toList ∧
      first.toList <+: text.toList := by
  obtain ⟨ws, hne, hws, rfl⟩ := h
  obtain ⟨first, more, rfl⟩ := List.exists_cons_of_ne_nil hne
  obtain ⟨hword, hfirst⟩ := hws first List.mem_cons_self
  refine ⟨first, more, wordsOf_intercalate fun w hw => (hws w hw).1, hfirst, hword, ?_⟩
  cases more with
  | nil => rw [String.intercalate_singleton]
  | cons second more =>
    rw [String.intercalate_cons_cons, String.toList_append, String.toList_append, List.append_assoc]
    exact List.prefix_append _ _

/-- A phrase begins with a character only if one of its words does. -/
theorem startsWith_eq_false (h : IsPhrase P text) {start : String} {c : Char}
    (hstart : start.toList = [c]) (hP : ∀ word, P word → startsWith word start = false) :
    startsWith text start = false := by
  obtain ⟨first, -, -, hfirst, hword, hprefix⟩ := h.exists_first
  obtain ⟨d, ds, hcons⟩ := List.exists_cons_of_ne_nil hword.1
  obtain ⟨rest, hrest⟩ := hprefix
  have hnone := hP first hfirst
  rw [startsWith, hstart, hcons, List.isPrefixOf_cons_cons, List.isPrefixOf_nil_left] at hnone
  rw [startsWith, hstart, ← hrest, hcons, List.cons_append, List.isPrefixOf_cons_cons,
    List.isPrefixOf_nil_left]
  exact hnone

/-- A character that is no blank is in a phrase only if it is in one of its words. -/
theorem not_mem (h : IsPhrase P text) {c : Char} (hc : isBlank c = false)
    (hP : ∀ word, P word → c ∉ word.toList) : c ∉ text.toList := by
  obtain ⟨ws, -, hws, rfl⟩ := h
  have hnone : ∀ word ∈ ws, c ∉ word.toList := fun word hword => hP word (hws word hword).2
  have hspace : c ∉ " ".toList := by
    rintro hmem
    obtain rfl : c = ' ' := by simpa using hmem
    exact absurd hc (by decide)
  clear hws
  induction ws with
  | nil => simp
  | cons word ws ih =>
    have hrest := ih fun other hother => hnone other (List.mem_cons_of_mem word hother)
    have hword := hnone word List.mem_cons_self
    cases ws with
    | nil => rwa [String.intercalate_singleton]
    | cons second ws =>
      rw [String.intercalate_cons_cons, String.toList_append, String.toList_append]
      simp only [List.mem_append, not_or]
      exact ⟨⟨hword, hspace⟩, hrest⟩

end IsPhrase

end ScriptedShell.Text
