/-
# Cutting at elements

Cutting a list at the elements that satisfy a predicate is the library's operation.  It goes piece
by piece: an element at which the list is cut stands between the pieces before it and the pieces
after it.
-/
import Mathlib
import ScriptedShell.Text.Lines

namespace ScriptedShell.Text

variable {α : Type} {p : α → Bool}

/-- Cutting a list at elements is the library's operation. -/
theorem splitAtEach_eq_splitOnP (p : α → Bool) (cs : List α) :
    splitAtEach p cs = cs.splitOnP p := by
  induction cs with
  | nil => rw [splitAtEach, List.splitOnP_nil]
  | cons c cs ih =>
    rw [splitAtEach, ih, List.splitOnP_cons_eq_if_modifyHead]
    obtain ⟨piece, rest, hpieces⟩ := List.exists_cons_of_ne_nil (List.splitOnP_ne_nil p cs)
    rw [hpieces]
    rfl

/-- A list is cut at an element into the pieces before it and the pieces after it. -/
theorem splitAtEach_append_cons (front : List α) {c : α} (hc : p c = true) (rest : List α) :
    splitAtEach p (front ++ c :: rest) = splitAtEach p front ++ splitAtEach p rest := by
  simp only [splitAtEach_eq_splitOnP, List.splitOnP_append_cons front rest hc]

/-- A list that is cut nowhere is its only piece. -/
theorem splitAtEach_eq_singleton {cs : List α} (h : ∀ c ∈ cs, p c = false) :
    splitAtEach p cs = [cs] := by
  rw [splitAtEach_eq_splitOnP, List.splitOnP_eq_singleton h]

/-- No piece holds an element at which the list is cut. -/
theorem eq_false_of_mem_splitAtEach {cs piece : List α} (h : piece ∈ splitAtEach p cs) {c : α}
    (hc : c ∈ piece) : p c = false := by
  induction cs generalizing piece with
  | nil =>
    obtain rfl : piece = [] := by simpa [splitAtEach] using h
    cases hc
  | cons x cs ih =>
    rw [splitAtEach] at h
    split_ifs at h with hx
    · rcases List.mem_cons.mp h with rfl | h
      · cases hc
      · exact ih h hc
    · obtain ⟨first, rest, hpieces⟩ := List.exists_cons_of_ne_nil (List.splitOnP_ne_nil p cs)
      rw [← splitAtEach_eq_splitOnP] at hpieces
      rw [hpieces] at h ih
      -- the first piece has the element in front of it now, the others are as they were
      rcases List.mem_cons.mp h with rfl | h
      · rcases List.mem_cons.mp hc with rfl | hc
        · simpa using hx
        · exact ih List.mem_cons_self hc
      · exact ih (List.mem_cons_of_mem first h) hc

/-- The first piece goes up to the first element at which the list is cut. -/
theorem splitAtEach_eq_cons (p : α → Bool) (cs : List α) :
    ∃ rest, splitAtEach p cs = (cs.takeWhile fun c => !p c) :: rest := by
  induction cs with
  | nil => exact ⟨[], rfl⟩
  | cons c cs ih =>
    obtain ⟨rest, hrest⟩ := ih
    rw [splitAtEach]
    split_ifs with hc
    · exact ⟨splitAtEach p cs, by simp [hc]⟩
    · rw [hrest]
      exact ⟨rest, by simp [hc]⟩

end ScriptedShell.Text
