/-
# Searching

A text occurs in another one when it stands there as a stretch of neighbouring characters, which is
the library's relation.  A stretch without some character stands on one side of it
(`infix_append_cons`).  Cutting a text at the first of some character leaves the last of them on
the right, if there are several (`afterLast_append_cons`).
-/
import Mathlib
import ScriptedShell.Text.Blank

namespace ScriptedShell.Text

variable {α : Type} {needle front back : List α} {x : α}

/-- Occurring in a text is the library's relation. -/
theorem occursIn_iff {needle cs : List Char} : occursIn needle cs = true ↔ needle <:+: cs := by
  induction cs with
  | nil => rw [occursIn, List.isEmpty_iff, List.infix_nil]
  | cons c cs ih =>
    rw [occursIn, Bool.or_eq_true, List.isPrefixOf_iff_prefix, ih, List.infix_cons_iff]

/-- What occurs in a stretch of a text occurs in the text. -/
theorem occursIn_mono {needle part cs : List Char} (hpart : part <:+: cs)
    (h : occursIn needle part = true) : occursIn needle cs = true :=
  occursIn_iff.mpr ((occursIn_iff.mp h).trans hpart)

/-- What does not occur in a text occurs in none of its stretches. -/
theorem not_occursIn_mono {needle part cs : List Char} (hpart : part <:+: cs)
    (h : occursIn needle cs = false) : occursIn needle part = false := by
  rw [← Bool.not_eq_true] at h ⊢
  exact fun hoccurs => h (occursIn_mono hpart hoccurs)

/-- **A stretch without some element** stands before that element or behind it. -/
theorem infix_append_cons (hx : x ∉ needle) :
    needle <:+: front ++ x :: back ↔ needle <:+: front ∨ needle <:+: back := by
  constructor
  · rintro ⟨before, after, heq⟩
    rw [List.append_assoc, List.append_eq_append_iff] at heq
    rcases heq with ⟨middle, hfront, hrest⟩ | ⟨middle, hbefore, hrest⟩
    · -- the stretch begins before the element
      rw [List.append_eq_append_iff] at hrest
      rcases hrest with ⟨gap, hmiddle, -⟩ | ⟨tail, hneedle, hback⟩
      · exact .inl ⟨before, gap, by rw [hfront, hmiddle, List.append_assoc]⟩
      · cases tail with
        | nil => exact .inl ⟨before, [], by rw [hfront, hneedle]; simp⟩
        | cons y tail =>
          obtain ⟨rfl, -⟩ := List.cons.inj hback
          exact absurd (by simp [hneedle]) hx
    · cases middle with
      | nil =>
        cases needle with
        | nil => exact .inl List.nil_infix
        | cons y needle =>
          obtain ⟨rfl, -⟩ := List.cons.inj hrest
          exact absurd List.mem_cons_self hx
      | cons y middle =>
        obtain ⟨-, hback⟩ := List.cons.inj hrest
        exact .inr ⟨middle, after, (List.append_assoc _ _ _).trans hback.symm⟩
  · rintro (h | h)
    · exact h.trans (List.prefix_append front _).isInfix
    · exact h.trans ((List.suffix_cons x back).trans (List.suffix_append front _)).isInfix

/-! ## Cutting at a character -/

section Cutting

variable {c : Char} {cs a b : List Char}

/-- A text is cut at the first of the characters. -/
theorem cutFirst_eq_some_iff : cutFirst c cs = some (a, b) ↔ cs = a ++ c :: b ∧ c ∉ a := by
  induction cs generalizing a with
  | nil => simp [cutFirst]
  | cons d cs ih =>
    rw [cutFirst]
    by_cases hd : d = c
    · rw [if_pos hd, Option.some.injEq, Prod.mk.injEq]
      constructor
      · rintro ⟨rfl, rfl⟩
        exact ⟨by rw [hd]; rfl, List.not_mem_nil⟩
      · rintro ⟨hsplit, hnone⟩
        cases a with
        | nil => exact ⟨rfl, (List.cons.inj hsplit).2⟩
        | cons first a =>
          obtain ⟨rfl, -⟩ := List.cons.inj hsplit
          exact absurd (hd ▸ List.mem_cons_self) hnone
    · rw [if_neg hd, Option.map_eq_some_iff]
      constructor
      · rintro ⟨⟨a', b'⟩, hcut, heq⟩
        obtain ⟨rfl, rfl⟩ := Prod.mk.inj heq
        obtain ⟨rfl, hnone⟩ := ih.mp hcut
        refine ⟨rfl, ?_⟩
        rw [List.mem_cons, not_or]
        exact ⟨Ne.symm hd, hnone⟩
      · rintro ⟨hsplit, hnone⟩
        cases a with
        | nil => exact absurd (List.cons.inj hsplit).1 hd
        | cons first a =>
          obtain ⟨rfl, hrest⟩ := List.cons.inj hsplit
          rw [List.mem_cons, not_or] at hnone
          exact ⟨(a, b), ih.mpr ⟨hrest, hnone.2⟩, rfl⟩

/-- A text is not cut when it has none of the characters. -/
theorem cutFirst_eq_none_iff : cutFirst c cs = none ↔ c ∉ cs := by
  induction cs with
  | nil => simp [cutFirst]
  | cons d cs ih =>
    rw [cutFirst]
    by_cases hd : d = c
    · simp [hd]
    · rw [if_neg hd, Option.map_eq_none_iff, ih, List.mem_cons, not_or]
      exact (and_iff_right (Ne.symm hd)).symm

/-- A text is cut at the first of the characters in one way only. -/
theorem append_cons_inj {a' b' : List Char} (ha : c ∉ a) (ha' : c ∉ a')
    (h : a ++ c :: b = a' ++ c :: b') : a = a' ∧ b = b' := by
  have hcut : cutFirst c (a ++ c :: b) = some (a, b) := cutFirst_eq_some_iff.mpr ⟨rfl, ha⟩
  have hcut' : cutFirst c (a ++ c :: b) = some (a', b') := cutFirst_eq_some_iff.mpr ⟨h, ha'⟩
  rw [hcut] at hcut'
  exact Prod.mk.inj (Option.some.inj hcut')

/-- A text without the character is after the last of none. -/
theorem afterLast_of_not_mem (h : c ∉ cs) : afterLast c cs = cs := by
  unfold afterLast
  rw [List.takeWhile_eq_self_iff.mpr, List.reverse_reverse]
  intro d hd
  rw [List.mem_reverse] at hd
  have hne : d ≠ c := ne_of_mem_of_not_mem hd h
  simpa using hne

/-- The last of the characters is looked for behind the others. -/
theorem afterLast_append_cons (front : List Char) (c : Char) (back : List Char) :
    afterLast c (front ++ c :: back) = afterLast c back := by
  unfold afterLast
  rw [List.reverse_append, List.reverse_cons, List.append_assoc, List.takeWhile_append]
  split_ifs with hall
  · -- there is no other one behind, so that all of the rest is taken
    have hstop : List.takeWhile (· != c) ([c] ++ front.reverse) = [] := by simp
    have hback : back.reverse.takeWhile (· != c) = back.reverse :=
      (List.takeWhile_prefix _).eq_of_length hall
    rw [hstop, List.append_nil, hback]
  · rfl

end Cutting

end ScriptedShell.Text
