/-
# Trimming

A trimmed text has no blank at either end, so trimming it again changes nothing, and blanks before
or after a text make no difference to it.  Only blanks are trimmed to nothing.
-/
import Mathlib
import ScriptedShell.Text.Blank

namespace ScriptedShell.Text

/-- Cutting the end of a text is the library's operation. -/
theorem dropEndWhile_eq_rdropWhile (p : Char → Bool) (cs : List Char) :
    dropEndWhile p cs = cs.rdropWhile p := rfl

/-- A text whose front is cut stays so when its end is cut as well. -/
theorem dropWhile_dropEndWhile (p : Char → Bool) (cs : List Char) :
    (dropEndWhile p (cs.dropWhile p)).dropWhile p = dropEndWhile p (cs.dropWhile p) := by
  rw [dropEndWhile_eq_rdropWhile, List.dropWhile_eq_self_iff]
  intro hpos
  have hkept := List.rdropWhile_prefix p (l := cs.dropWhile p)
  have hlen := hkept.length_le
  rw [hkept.getElem hpos]
  exact List.dropWhile_get_zero_not p cs (by omega)

/-- Trimming twice is trimming once. -/
@[simp] theorem trim_trim (cs : List Char) : trim (trim cs) = trim cs := by
  rw [trim, trim, trimEnd, trimEnd, dropWhile_dropEndWhile, dropEndWhile_eq_rdropWhile,
    dropEndWhile_eq_rdropWhile]
  exact List.rdropWhile_idempotent _ _

/-- A trimmed string stays when it is trimmed again. -/
theorem trimmed_trimmed (s : String) : trimmed (trimmed s) = trimmed s := by
  rw [trimmed, trimmed, String.toList_ofList, trim_trim]

/-- Trimming leaves characters out and does nothing else. -/
theorem mem_of_mem_trim {cs : List Char} {c : Char} (h : c ∈ trim cs) : c ∈ cs :=
  (List.dropWhile_suffix isBlank).mem ((List.rdropWhile_prefix isBlank _).mem h)

/-- Trimming leaves no character out that is no blank. -/
theorem mem_trim {cs : List Char} {c : Char} (hc : isBlank c = false) (h : c ∈ cs) :
    c ∈ trim cs := by
  have hdrop : ∀ {cs : List Char}, c ∈ cs → c ∈ cs.dropWhile isBlank := by
    intro cs hcs
    rw [← List.takeWhile_append_dropWhile (p := isBlank) (l := cs), List.mem_append] at hcs
    refine hcs.resolve_left fun htaken => ?_
    rw [List.mem_takeWhile_imp htaken] at hc
    cases hc
  rw [trim, trimEnd, dropEndWhile, List.mem_reverse]
  exact hdrop (List.mem_reverse.mpr (hdrop h))

/-- Blanks after a text make no difference when it is trimmed. -/
theorem trim_append_blanks (cs : List Char) {blanks : List Char}
    (h : ∀ c ∈ blanks, isBlank c = true) : trim (cs ++ blanks) = trim cs := by
  induction blanks using List.reverseRecOn with
  | nil => rw [List.append_nil]
  | append_singleton blanks c ih =>
    rw [← ih fun d hd => h d (List.mem_append_left _ hd), ← List.append_assoc]
    have hc : isBlank c = true := h c (by simp)
    rw [trim, trim, trimEnd, trimEnd, List.dropWhile_append]
    split_ifs with hall
    · rw [List.dropWhile_cons_of_pos hc, List.isEmpty_iff.mp hall]
      rfl
    · exact List.rdropWhile_concat_pos _ _ _ hc

/-- Blanks before a text make no difference when it is trimmed. -/
theorem trim_blanks_append {blanks : List Char} (h : ∀ c ∈ blanks, isBlank c = true)
    (cs : List Char) : trim (blanks ++ cs) = trim cs := by
  rw [trim, List.dropWhile_append_of_pos h, trim]

/-- A text is trimmed to nothing exactly when it is blank. -/
theorem trim_eq_nil_iff {cs : List Char} : trim cs = [] ↔ ∀ c ∈ cs, isBlank c = true := by
  constructor
  · intro h
    rw [trim, trimEnd, dropEndWhile_eq_rdropWhile, List.rdropWhile_eq_nil_iff] at h
    -- what is left of the front of a text begins with a character that is no blank
    cases hrest : cs.dropWhile isBlank with
    | nil => exact List.dropWhile_eq_nil_iff.mp hrest
    | cons c rest =>
      have hpos : 0 < (cs.dropWhile isBlank).length := by simp [hrest]
      exact absurd (h _ (List.getElem_mem hpos)) (List.dropWhile_get_zero_not isBlank cs hpos)
  · intro h
    have hnil := trim_blanks_append h []
    rwa [List.append_nil] at hnil

/-- Cutting the end of a longer text leaves more of it. -/
theorem rdropWhile_prefix_append (p : Char → Bool) (front back : List Char) :
    front.rdropWhile p <+: (front ++ back).rdropWhile p := by
  induction back using List.reverseRecOn with
  | nil => rw [List.append_nil]
  | append_singleton back c ih =>
    rw [← List.append_assoc, List.rdropWhile_concat]
    split_ifs
    · exact ih
    · exact (List.rdropWhile_prefix p front).trans ⟨back ++ [c], (List.append_assoc _ _ _).symm⟩

/-- The beginning of a text is trimmed to the beginning of what the text is trimmed to. -/
theorem trim_prefix_trim {front line : List Char} (h : front <+: line) : trim front <+: trim line := by
  obtain ⟨back, rfl⟩ := h
  rw [trim, trim, List.dropWhile_append]
  split_ifs with hblank
  · rw [List.isEmpty_iff.mp hblank]
    exact List.nil_prefix
  · exact rdropWhile_prefix_append isBlank _ back

/-- A trimmed text that is not empty ends with a character that is no blank. -/
theorem isBlank_getLast {text : List Char} (htext : trim text = text) (hne : text ≠ []) :
    isBlank (text.getLast hne) = false := by
  have hdropped : (text.dropWhile isBlank).rdropWhile isBlank = text := htext
  have hlast := List.rdropWhile_last_not isBlank (text.dropWhile isBlank) (by rwa [hdropped])
  simpa only [hdropped, Bool.not_eq_true] using hlast

/-- Something before a trimmed text is trimmed off exactly when it is blank. -/
theorem trim_append_eq_iff {front text : List Char} (htext : trim text = text) (hne : text ≠ []) :
    trim (front ++ text) = text ↔ ∀ c ∈ front, isBlank c = true := by
  constructor
  · intro h
    by_contra hfront
    have hdrop : front.dropWhile isBlank ≠ [] :=
      fun hnil => hfront (List.dropWhile_eq_nil_iff.mp hnil)
    -- what is left of the front stays, and so does the text after it
    have hkept : trim (front ++ text) = front.dropWhile isBlank ++ text := by
      rw [trim, List.dropWhile_append, if_neg (by simpa using hdrop), trimEnd,
        dropEndWhile_eq_rdropWhile, List.rdropWhile_eq_self_iff]
      intro hall
      rw [List.getLast_append_of_ne_nil hall hne, isBlank_getLast htext hne]
      exact Bool.false_ne_true
    rw [hkept] at h
    exact hdrop (List.append_left_eq_self.mp h)
  · intro hblank
    rw [trim_blanks_append hblank, htext]

end ScriptedShell.Text
