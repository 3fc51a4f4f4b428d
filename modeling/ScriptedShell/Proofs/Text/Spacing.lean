/-
# Words and the gaps between them

A text is its words with gaps between them, before the first and after the last: the gaps hold
blanks only, and between two words there is one that is not empty (`Spacing`).  Other texts can be
put between the same gaps (`spread`).  The words of what comes out are the words of these texts
(`words_spread`), and if the first text had no blank at its ends neither has what comes out
(`trim_spread`).
-/
import Mathlib
import ScriptedShell.Proofs.Text.Trim
import ScriptedShell.Proofs.Text.Words

namespace ScriptedShell.Text

/-! ## Spacings -/

/-- Whether gaps stand around words: one before each word and one after the last. -/
inductive Spacing : List (List Char) → List (List Char) → Prop
  | last {gap : List Char} (hgap : ∀ c ∈ gap, isBlank c = true) : Spacing [gap] []
  /-- The gap after a word is not empty when another word comes after it. -/
  | cons {gap word next : List Char} {gaps ws : List (List Char)}
    (hgap : ∀ c ∈ gap, isBlank c = true) (hword : IsWord word) (hnext : ws ≠ [] → next ≠ [])
    (h : Spacing (next :: gaps) ws) : Spacing (gap :: next :: gaps) (word :: ws)

/-- Texts put between gaps, in order. -/
def spread : List (List Char) → List (List Char) → List Char
  | gap :: gaps, text :: texts => gap ++ (text ++ spread gaps texts)
  | gaps, _ => gaps.flatten

theorem spread_cons (gap : List Char) (gaps : List (List Char)) (text : List Char)
    (texts : List (List Char)) :
    spread (gap :: gaps) (text :: texts) = gap ++ (text ++ spread gaps texts) := rfl

theorem spread_last (gap : List Char) : spread [gap] [] = gap := List.append_nil gap

namespace Spacing

variable {gap : List Char} {gaps ws : List (List Char)}

/-- A spacing begins with a gap. -/
theorem blank (h : Spacing (gap :: gaps) ws) : ∀ c ∈ gap, isBlank c = true := by
  cases h with
  | last hgap => exact hgap
  | cons hgap => exact hgap

/-- Where there is no word, there is one gap. -/
theorem eq_nil (h : Spacing (gap :: gaps) []) : gaps = [] := by
  cases h
  rfl

/-- The first gap can be any. -/
theorem withFirst (h : Spacing (gap :: gaps) ws) {other : List Char}
    (hother : ∀ c ∈ other, isBlank c = true) : Spacing (other :: gaps) ws := by
  cases h with
  | last => exact .last hother
  | cons _ hword hnext h => exact .cons hother hword hnext h

end Spacing

/-! ## Words -/

/-- **The words of spaced texts** are the words of the texts, whatever these are. -/
theorem words_spread {gaps ws : List (List Char)} (h : Spacing gaps ws)
    {texts : List (List Char)} (hlength : texts.length = ws.length) :
    words (spread gaps texts) = texts.flatMap words := by
  induction h generalizing texts with
  | last hgap =>
    obtain rfl := List.length_eq_zero_iff.mp hlength
    rw [spread_last, words_blanks hgap]
    rfl
  | @cons gap word next gaps ws hgap hword hnext h ih =>
    obtain ⟨text, texts, rfl⟩ := List.exists_cons_of_length_eq_add_one hlength
    have hrest := ih (Nat.succ.inj hlength)
    rw [spread_cons, words_blanks_append hgap, List.flatMap_cons, ← hrest]
    cases texts with
    | nil =>
      obtain rfl := List.length_eq_zero_iff.mp (Nat.succ.inj hlength).symm
      obtain rfl := h.eq_nil
      rw [spread_last, words_append_blanks h.blank, words_blanks h.blank, List.append_nil]
    | cons second texts =>
      have hws : ws ≠ [] := by
        rintro rfl
        cases hlength
      rw [spread_cons, words_append_gap (hnext hws) h.blank, words_blanks_append h.blank]

/-! ## Blanks at the ends -/

/-- A text is trimmed when it neither begins nor ends with a blank. -/
theorem trim_eq_self_iff {cs : List Char} :
    trim cs = cs ↔
      (∀ c ∈ cs.head?, isBlank c = false) ∧ ∀ c ∈ cs.getLast?, isBlank c = false := by
  have hfront : cs.dropWhile isBlank = cs ↔ ∀ c ∈ cs.head?, isBlank c = false := by
    cases cs with
    | nil => simp
    | cons c cs => simp [List.dropWhile_eq_self_iff]
  have hback : trimEnd cs = cs ↔ ∀ c ∈ cs.getLast?, isBlank c = false := by
    rw [trimEnd, dropEndWhile_eq_rdropWhile, List.rdropWhile_eq_self_iff]
    constructor
    · intro h c hc
      obtain ⟨hne, rfl⟩ := List.mem_getLast?_eq_getLast hc
      simpa using h hne
    · intro h hne
      simpa using h _ (List.getLast?_eq_getLast_of_ne_nil hne)
  rw [← hfront, ← hback]
  constructor
  · intro h
    have hdropped : cs.dropWhile isBlank = cs := by
      rw [← h, trim, trimEnd]
      exact dropWhile_dropEndWhile isBlank cs
    rw [trim, hdropped] at h
    exact ⟨hdropped, h⟩
  · rintro ⟨hdropped, hcut⟩
    rw [trim, hdropped, hcut]

/-- A word is trimmed. -/
theorem IsWord.trim_eq {cs : List Char} (h : IsWord cs) : trim cs = cs :=
  trim_eq_self_iff.mpr ⟨fun c hc => h.2 c (List.mem_of_mem_head? hc),
    fun c hc => h.2 c (List.mem_of_mem_getLast? hc)⟩

/-- A phrase does not end with a blank. -/
theorem getLast?_intercalate {ws : List String} (hws : ∀ word ∈ ws, IsWord word.toList) :
    ∀ c ∈ (String.intercalate " " ws).toList.getLast?, isBlank c = false := by
  induction ws with
  | nil => simp
  | cons word ws ih =>
    have hrest := ih fun other hother => hws other (List.mem_cons_of_mem word hother)
    cases ws with
    | nil =>
      rw [String.intercalate_singleton]
      exact (trim_eq_self_iff.mp (hws word List.mem_cons_self).trim_eq).2
    | cons second ws =>
      have hne : (String.intercalate " " (second :: ws)).toList ≠ [] := by
        have hsecond := (hws second (by simp)).1
        cases ws <;> simp_all
      rwa [String.intercalate_cons_cons, String.toList_append, List.getLast?_append_of_ne_nil _ hne]

/-- A phrase is trimmed. -/
theorem IsPhrase.trim_eq {P : String → Prop} {text : String} (h : IsPhrase P text) :
    trim text.toList = text.toList := by
  refine trim_eq_self_iff.mpr ⟨fun c hc => ?_, ?_⟩
  · obtain ⟨first, -, -, -, hword, hprefix⟩ := h.exists_first
    obtain ⟨d, ds, hfirst⟩ := List.exists_cons_of_ne_nil hword.1
    obtain ⟨rest, hrest⟩ := hprefix
    rw [← hrest, hfirst] at hc
    obtain rfl : d = c := by simpa using hc
    exact hword.2 d (by rw [hfirst]; exact List.mem_cons_self)
  · obtain ⟨ws, -, hws, rfl⟩ := h
    exact getLast?_intercalate fun word hword => (hws word hword).1

/-- Spaced texts that are not empty are not empty together. -/
theorem spread_ne_nil {gaps : List (List Char)} {text : List Char} {texts : List (List Char)}
    (hgaps : gaps ≠ []) (htext : text ≠ []) : spread gaps (text :: texts) ≠ [] := by
  obtain ⟨gap, gaps, rfl⟩ := List.exists_cons_of_ne_nil hgaps
  rw [spread_cons]
  simp [htext]

/-- Whether spaced texts end with a blank does not depend on the texts: it is so when there is a
gap after the last of them. -/
theorem getLast?_spread {gaps ws : List (List Char)} (h : Spacing gaps ws)
    {texts : List (List Char)} (hlength : texts.length = ws.length)
    (htexts : ∀ text ∈ texts, text ≠ [] ∧ trim text = text)
    (hws : ∀ c ∈ (spread gaps ws).getLast?, isBlank c = false) :
    ∀ c ∈ (spread gaps texts).getLast?, isBlank c = false := by
  induction h generalizing texts with
  | last hgap =>
    obtain rfl := List.length_eq_zero_iff.mp hlength
    exact hws
  | @cons gap word next gaps ws hgap hword hnext h ih =>
    obtain ⟨text, texts, rfl⟩ := List.exists_cons_of_length_eq_add_one hlength
    obtain ⟨hne, htrimmed⟩ := htexts text List.mem_cons_self
    rw [spread_cons] at hws ⊢
    cases texts with
    | nil =>
      obtain rfl := List.length_eq_zero_iff.mp (Nat.succ.inj hlength).symm
      obtain rfl := h.eq_nil
      rw [spread_last] at hws ⊢
      -- the gap after the last word is empty, since it would end with a blank
      have hempty : next = [] := by
        by_contra hnext
        have hlast : next.getLast? = some (next.getLast hnext) :=
          List.getLast?_eq_getLast_of_ne_nil hnext
        have hblank := h.blank _ (List.getLast_mem hnext)
        have hnot := hws (next.getLast hnext) (by
          rw [List.getLast?_append, List.getLast?_append, hlast]
          rfl)
        rw [hblank] at hnot
        cases hnot
      rw [hempty, List.append_nil, List.getLast?_append_of_ne_nil gap hne]
      exact (trim_eq_self_iff.mp htrimmed).2
    | cons second texts =>
      obtain ⟨word', ws, rfl⟩ := List.exists_cons_of_length_eq_add_one (Nat.succ.inj hlength).symm
      have hword' : word' ≠ [] := by
        cases h with
        | cons _ hword' => exact hword'.1
      have hsecond := (htexts second (by simp)).1
      rw [List.getLast?_append_of_ne_nil _ (by simp [hne]),
        List.getLast?_append_of_ne_nil _ (spread_ne_nil (by simp) hsecond)]
      rw [List.getLast?_append_of_ne_nil _ (by simp [hword.1]),
        List.getLast?_append_of_ne_nil _ (spread_ne_nil (by simp) hword')] at hws
      exact ih (Nat.succ.inj hlength) (fun t ht => htexts t (List.mem_cons_of_mem text ht)) hws

/-- **Trimmed texts in place of the words of a trimmed text** make one that is trimmed. -/
theorem trim_spread {gaps ws : List (List Char)} (h : Spacing gaps ws)
    {texts : List (List Char)} (hlength : texts.length = ws.length)
    (htexts : ∀ text ∈ texts, text ≠ [] ∧ trim text = text)
    (hws : trim (spread gaps ws) = spread gaps ws) :
    trim (spread gaps texts) = spread gaps texts := by
  obtain ⟨hhead, hlast⟩ := trim_eq_self_iff.mp hws
  refine trim_eq_self_iff.mpr ⟨?_, getLast?_spread h hlength htexts hlast⟩
  cases h with
  | last =>
    obtain rfl := List.length_eq_zero_iff.mp hlength
    exact hhead
  | @cons gap word next gaps ws hgap hword hnext h =>
    obtain ⟨text, texts, rfl⟩ := List.exists_cons_of_length_eq_add_one hlength
    obtain ⟨hne, htrimmed⟩ := htexts text List.mem_cons_self
    rw [spread_cons] at hhead ⊢
    cases gap with
    | nil =>
      rw [List.nil_append, List.head?_append_of_ne_nil _ hne]
      exact (trim_eq_self_iff.mp htrimmed).1
    | cons c gap => exact absurd (hhead c rfl) (by rw [hgap c List.mem_cons_self]; decide)

/-! ## The gaps of a text -/

/-- Whether gaps and words take turns, with no run empty. -/
inductive Alternating : List Run → Prop
  | nil : Alternating []
  | gap {t : List Char} {rest : List Run} (hne : t ≠ []) (hblank : ∀ c ∈ t, isBlank c = true)
    (hrest : Alternating rest) (hnext : ∀ t', rest.head? ≠ some (.gap t')) :
    Alternating (.gap t :: rest)
  | word {t : List Char} {rest : List Run} (hword : IsWord t) (hrest : Alternating rest)
    (hnext : ∀ t', rest.head? ≠ some (.word t')) : Alternating (.word t :: rest)

/-- One character more. -/
theorem Alternating.consRun {rs : List Run} (h : Alternating rs) (c : Char) :
    Alternating (consRun c rs) := by
  cases h with
  | nil =>
    rw [Text.consRun]
    split_ifs with hc
    · exact .gap (by simp) (by simpa using hc) .nil (by simp)
    · exact .word ⟨by simp, by simpa using hc⟩ .nil (by simp)
  | @gap t rest hne hblank hrest hnext =>
    rw [Text.consRun]
    split_ifs with hc
    · exact .gap (by simp) (List.forall_mem_cons.mpr ⟨hc, hblank⟩) hrest hnext
    · exact .word ⟨by simp, by simpa using hc⟩ (.gap hne hblank hrest hnext) (by simp)
  | @word t rest hword hrest hnext =>
    rw [Text.consRun]
    split_ifs with hc
    · exact .gap (by simp) (by simpa using hc) (.word hword hrest hnext) (by simp)
    · have hletter : isBlank c = false := by simpa using hc
      exact .word ⟨by simp, List.forall_mem_cons.mpr ⟨hletter, hword.2⟩⟩ hrest hnext

/-- **Gaps and words take turns** in the runs of a text. -/
theorem alternating_runs (cs : List Char) : Alternating (runs cs) := by
  induction cs with
  | nil => exact .nil
  | cons c cs ih => exact ih.consRun c

/-- The gap with which runs begin, empty when they do not begin with one. -/
def firstGap : List Run → List Char
  | .gap t :: _ => t
  | _ => []

/-- The gaps after the words among runs. -/
def laterGaps : List Run → List (List Char)
  | [] => []
  | .gap _ :: rest => laterGaps rest
  | .word _ :: rest => firstGap rest :: laterGaps rest

/-- Runs do not begin with a gap when the first one is none. -/
theorem firstGap_eq_nil {rs : List Run} (h : ∀ t, rs.head? ≠ some (.gap t)) :
    firstGap rs = [] := by
  match rs, h with
  | [], _ => rfl
  | .gap t :: rest, h => exact absurd rfl (h t)
  | .word t :: rest, _ => rfl

/-- The gaps of runs stand around their words. -/
theorem Alternating.spacing {rs : List Run} (h : Alternating rs) :
    Spacing (firstGap rs :: laterGaps rs) (rs.filterMap Run.word?) := by
  induction h with
  | nil => exact .last (by simp [firstGap])
  | @gap t rest hne hblank hrest hnext ih => exact ih.withFirst hblank
  | @word t rest hword hrest hnext ih =>
    refine .cons (by simp [firstGap]) hword (fun hws => ?_) ih
    cases hrest with
    | nil => exact absurd rfl hws
    | gap hne => exact hne
    | @word t' => exact absurd rfl (hnext t')

end ScriptedShell.Text
