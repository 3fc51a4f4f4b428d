/-
# Numbers written out

A number is written with the digits 0 to 9, which are no blanks and no dash, and is read back as
what it is when it is not too large (`boundedNumber_toString`).
-/
import Mathlib
import ScriptedShell.Proofs.Text.Words
import ScriptedShell.Text.Digits

namespace ScriptedShell.Text

/-- The value of digits is the library's. -/
theorem digitsValue_eq_ofDigitChars (cs : List Char) : digitsValue cs = Nat.ofDigitChars 10 cs 0 :=
  rfl

/-- The first character says whether a text begins with a dash. -/
theorem startsWith_dash_eq {s : String} {c : Char} {cs : List Char} (h : s.toList = c :: cs) :
    startsWith s "-" = ('-' == c) := by
  rw [startsWith, h]
  show ('-' == c && [].isPrefixOf cs) = _
  rw [List.isPrefixOf_nil_left, Bool.and_true]

/-- A digit is no blank. -/
theorem isBlank_of_isDigit {c : Char} (h : c.isDigit = true) : isBlank c = false := by
  have hcode : 48 ≤ c.toNat ∧ c.toNat ≤ 57 := by
    simpa [Char.isDigit, UInt32.le_iff_toNat_le] using h
  simp only [isBlank, Bool.or_eq_false_iff, Bool.and_eq_false_iff, decide_eq_false_iff_not,
    beq_eq_false_iff_ne]
  omega

section Written

variable (n : Nat)

/-- The digits of a number that is written out. -/
theorem toList_toString : (toString n).toList = Nat.toDigits 10 n := by
  rw [Nat.toString_eq_repr, Nat.toList_repr]

/-- A number is written with digits only. -/
theorem isDigit_of_mem_toString {c : Char} (h : c ∈ (toString n).toList) : c.isDigit = true := by
  rw [toList_toString] at h
  exact Nat.isDigit_of_mem_toDigits (by omega) (by omega) h

/-- A number that is written out is a word. -/
theorem isWord_toString : IsWord (toString n).toList := by
  constructor
  · rw [toList_toString]
    exact Nat.toDigits_ne_nil
  · intro c hc
    exact isBlank_of_isDigit (isDigit_of_mem_toString n hc)

/-- A number that is written out has no dash. -/
theorem startsWith_toString : startsWith (toString n) "-" = false := by
  obtain ⟨c, cs, hcons⟩ := List.exists_cons_of_ne_nil (isWord_toString n).1
  have hdigit : c.isDigit = true := isDigit_of_mem_toString n (by rw [hcons]; simp)
  have hdash : c ≠ '-' := by
    rintro rfl
    exact absurd hdigit (by decide)
  rw [startsWith_dash_eq hcons, beq_eq_false_iff_ne]
  exact hdash.symm

/-- **A number is read back.** -/
theorem boundedNumber_toString {bound : Nat} (h : n ≤ bound) :
    boundedNumber bound (toString n).toList = some n := by
  obtain ⟨c, cs, hcons⟩ := List.exists_cons_of_ne_nil (isWord_toString n).1
  have hdigits : (c :: cs).all Char.isDigit = true := by
    rw [List.all_eq_true, ← hcons]
    intro d hd
    exact isDigit_of_mem_toString n hd
  have hvalue : digitsValue (c :: cs) = n := by
    rw [← hcons, toList_toString, digitsValue_eq_ofDigitChars]
    exact Nat.ofDigitChars_toDigits (by omega) (by omega)
  have hplus : c ≠ '+' := by
    rintro rfl
    simp at hdigits
  rw [hcons]
  unfold boundedNumber
  split
  · next rest hrest => exact absurd (List.cons.inj hrest).1 hplus
  · simp [hdigits, hvalue, h]

end Written

end ScriptedShell.Text
