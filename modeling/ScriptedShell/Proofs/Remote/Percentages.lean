/-
# Percentages

The program that copies files shows its progress as one to three digits before a percent sign.  The
numbers of a line are those found from left to right, each one behind the one before it.  That is a
relation between a line and its numbers (`IsScan`), and looking back from every percent sign finds
just the numbers that are in it (`isScan_iff`).
-/
import Mathlib
import ScriptedShell.Proofs.Text.Searching
import ScriptedShell.Remote.Copy

namespace ScriptedShell.Remote

open Text

/-! ## Numbers before percent signs -/

/-- Whether characters are a number that may stand before a percent sign. -/
structure IsNumber (digits : List Char) : Prop where
  ne_nil : digits ≠ []
  length_le : digits.length ≤ maxPercentDigits
  digit : ∀ c ∈ digits, isDecimalDigit c = true

/-- The numbers before the percent signs of a text, from left to right.  Where a number and a
percent sign begin, the search goes on behind the sign; elsewhere it goes on a character later. -/
inductive IsScan : List Char → List (List Char) → Prop
  | nil : IsScan [] []
  | skip {c : Char} {cs : List Char} {numbers : List (List Char)} :
      (∀ digits rest, IsNumber digits → c :: cs ≠ digits ++ '%' :: rest) →
      IsScan cs numbers → IsScan (c :: cs) numbers
  | found {digits rest : List Char} {numbers : List (List Char)} :
      IsNumber digits → IsScan rest numbers →
      IsScan (digits ++ '%' :: rest) (digits :: numbers)

/-- There is no percent sign in a number. -/
theorem IsNumber.percent_not_mem {digits : List Char} (h : IsNumber digits) : '%' ∉ digits := by
  intro hmem
  have hdigit : isDecimalDigit '%' = true := h.digit '%' hmem
  exact absurd hdigit (by decide)

namespace IsScan

variable {text : List Char} {numbers numbers' : List (List Char)}

/-- What is found are numbers. -/
theorem isNumber (h : IsScan text numbers) : ∀ digits ∈ numbers, IsNumber digits := by
  induction h with
  | nil => simp
  | skip _ _ ih => exact ih
  | found hdigits _ ih =>
    intro digits hmem
    rw [List.mem_cons] at hmem
    rcases hmem with rfl | hmem
    · exact hdigits
    · exact ih digits hmem

/-- A text is searched in one way only. -/
theorem unique (h : IsScan text numbers) (h' : IsScan text numbers') : numbers = numbers' := by
  induction h generalizing numbers' with
  | nil =>
    generalize htext : ([] : List Char) = text at h'
    cases h' with
    | nil => rfl
    | skip => exact absurd htext (List.cons_ne_nil _ _).symm
    | found => simp at htext
  | @skip c cs numbers hnone _ ih =>
    generalize htext : c :: cs = text at h'
    cases h' with
    | nil => exact absurd htext (List.cons_ne_nil c cs)
    | skip _ hrest =>
      obtain ⟨-, rfl⟩ := List.cons.inj htext
      exact ih hrest
    | found hdigits _ => exact absurd htext (hnone _ _ hdigits)
  | @found digits rest numbers hdigits _ ih =>
    generalize htext : digits ++ '%' :: rest = text at h'
    cases h' with
    | nil => simp at htext
    | skip hnone _ => exact absurd htext.symm (hnone _ _ hdigits)
    | found hdigits' hrest =>
      obtain ⟨rfl, rfl⟩ :=
        append_cons_inj hdigits.percent_not_mem hdigits'.percent_not_mem htext
      rw [ih hrest]

/-- Nothing is found in a text without percent signs. -/
theorem of_percent_not_mem (h : '%' ∉ text) : IsScan text [] := by
  induction text with
  | nil => exact .nil
  | cons c cs ih =>
    apply IsScan.skip
    · intro digits rest _ heq
      rw [heq] at h
      simp at h
    · exact ih (List.not_mem_of_not_mem_cons h)

/-- Characters at which no number begins may stand in front. -/
theorem append {front : List Char} (h : IsScan text numbers)
    (hnone : ∀ back digits rest, back ≠ [] → back <:+ front → IsNumber digits →
      back ++ text ≠ digits ++ '%' :: rest) : IsScan (front ++ text) numbers := by
  induction front with
  | nil => exact h
  | cons c front ih =>
    apply IsScan.skip
    · intro digits rest hdigits
      exact hnone (c :: front) digits rest (List.cons_ne_nil c front) (List.suffix_refl _) hdigits
    · apply ih
      intro back digits rest hback hsuffix
      exact hnone back digits rest hback (hsuffix.trans (List.suffix_cons c front))

end IsScan

/-! ## Looking back from a percent sign -/

/-- The digits before a percent sign, last one first, where `seen` are the characters before. -/
def digitsBefore (seen : List Char) : List Char :=
  (seen.takeWhile isDecimalDigit).take maxPercentDigits

section LookingBack

variable {seen : List Char}

/-- The digits before a percent sign are the last characters before it. -/
theorem digitsBefore_prefix (seen : List Char) : digitsBefore seen <+: seen :=
  (List.take_prefix _ _).trans (List.takeWhile_prefix _)

/-- If there are digits before a percent sign they are a number. -/
theorem isNumber_digitsBefore (h : digitsBefore seen ≠ []) :
    IsNumber (digitsBefore seen).reverse := by
  refine ⟨?_, ?_, ?_⟩
  · rwa [ne_eq, List.reverse_eq_nil_iff]
  · rw [List.length_reverse]
    exact List.length_take_le _ _
  · intro c hc
    rw [List.mem_reverse] at hc
    exact List.mem_takeWhile_imp (List.mem_of_mem_take hc)

/-- No number before a percent sign is longer than the digits before it. -/
theorem length_le_digitsBefore {digits : List Char} (hdigits : IsNumber digits)
    (hbegins : digits.reverse <+: seen) : digits.length ≤ (digitsBefore seen).length := by
  obtain ⟨more, rfl⟩ := hbegins
  have hall : ∀ c ∈ digits.reverse, isDecimalDigit c = true := by
    intro c hc
    exact hdigits.digit c (List.mem_reverse.mp hc)
  have hle := hdigits.length_le
  unfold digitsBefore
  rw [List.takeWhile_append_of_pos hall, List.length_take, List.length_append, List.length_reverse]
  omega

/-- **Looking back from the first percent sign** finds the first number, if there is one. -/
theorem isScan_reverse_append (hseen : '%' ∉ seen) {cs : List Char} {numbers : List (List Char)}
    (h : IsScan cs numbers) :
    IsScan (seen.reverse ++ '%' :: cs)
      (if digitsBefore seen = [] then numbers else (digitsBefore seen).reverse :: numbers) := by
  obtain ⟨before, hbefore⟩ := digitsBefore_prefix seen
  have hsplit : seen.reverse = before.reverse ++ (digitsBefore seen).reverse := by
    rw [← List.reverse_append, hbefore]
  have hpercent : '%' ∉ seen.reverse := by rwa [List.mem_reverse]
  rw [hsplit, List.append_assoc]
  apply IsScan.append
  · by_cases hnone : digitsBefore seen = []
    · rw [if_pos hnone, hnone]
      apply IsScan.skip _ h
      intro digits rest hdigits heq
      -- a number begins with a digit
      have hnil : [] = digits :=
        (append_cons_inj List.not_mem_nil hdigits.percent_not_mem heq).1
      exact hdigits.ne_nil hnil.symm
    · rw [if_neg hnone]
      exact .found (isNumber_digitsBefore hnone) h
  · intro back digits rest hback hsuffix hdigits heq
    rw [← List.append_assoc] at heq
    -- a number that begins earlier would be longer than the digits before the sign
    have hstretch : back ++ (digitsBefore seen).reverse <:+ seen.reverse := by
      rw [hsplit]
      exact (List.suffix_append_inj_of_length_eq rfl).mpr ⟨hsuffix, rfl⟩
    have hnumber : back ++ (digitsBefore seen).reverse = digits :=
      (append_cons_inj (fun hmem => hpercent (hstretch.subset hmem))
        hdigits.percent_not_mem heq).1
    have hbegins : digits.reverse <+: seen := by
      rw [← hnumber, ← List.reverse_suffix, List.reverse_reverse]
      exact hstretch
    have hlength := length_le_digitsBefore hdigits hbegins
    rw [← hnumber, List.length_append, List.length_reverse] at hlength
    have hpos : 0 < back.length := List.length_pos_iff.mpr hback
    omega

/-- What is found from a percent sign on. -/
theorem percentDigits_cons_percent (seen cs : List Char) :
    percentDigits seen ('%' :: cs) =
      if digitsBefore seen = [] then percentDigits [] cs
      else (digitsBefore seen).reverse :: percentDigits [] cs := by
  rw [percentDigits, if_pos rfl, ← digitsBefore]
  cases digitsBefore seen <;> rfl

/-- The numbers that are found by looking back from every percent sign. -/
theorem isScan_percentDigits (hseen : '%' ∉ seen) (cs : List Char) :
    IsScan (seen.reverse ++ cs) (percentDigits seen cs) := by
  -- the characters since the last percent sign are those that looking back goes through
  induction cs generalizing seen with
  | nil =>
    rw [List.append_nil]
    apply IsScan.of_percent_not_mem
    rwa [List.mem_reverse]
  | cons c cs ih =>
    by_cases hc : c = '%'
    · have hrest : IsScan cs (percentDigits [] cs) := ih List.not_mem_nil
      rw [hc, percentDigits_cons_percent]
      exact isScan_reverse_append hseen hrest
    · have hseen' : '%' ∉ c :: seen := by
        rw [List.mem_cons, not_or]
        exact ⟨Ne.symm hc, hseen⟩
      have hscan := ih hseen'
      rw [List.reverse_cons, List.append_assoc, List.singleton_append] at hscan
      unfold percentDigits
      rw [if_neg hc]
      exact hscan

end LookingBack

/-- **The numbers of a line** are those that looking back from its percent signs finds. -/
theorem isScan_iff {line : List Char} {numbers : List (List Char)} :
    IsScan line numbers ↔ numbers = percentDigits [] line := by
  have hscan : IsScan line (percentDigits [] line) := isScan_percentDigits List.not_mem_nil line
  constructor
  · intro h
    exact h.unique hscan
  · rintro rfl
    exact hscan

/-! ## Percentages that are reported -/

/-- Whether a number is written with the digits 0 to 9 and fits in a byte.  Digits of other scripts
make numbers too, but no bytes. -/
def fitsByte (digits : List Char) : Bool :=
  digits.all Char.isDigit && digitsValue digits ≤ maxPercent

/-- What a number names when it has to fit in a byte. -/
theorem boundedNumber_of_isNumber {digits : List Char} (h : IsNumber digits) :
    boundedNumber maxPercent digits =
      if fitsByte digits then some (digitsValue digits) else none := by
  obtain ⟨c, cs, rfl⟩ := List.exists_cons_of_ne_nil h.ne_nil
  have hplus : c ≠ '+' := by
    rintro rfl
    exact absurd (h.digit '+' List.mem_cons_self) (by decide)
  unfold boundedNumber fitsByte
  split
  · next rest hrest => exact absurd (List.cons.inj hrest).1 hplus
  · cases hall : (c :: cs).all Char.isDigit <;> simp [hall]

/-- **The percentages of a line** are the values of its numbers that fit in a byte, in order. -/
theorem percentagesOf_of_isScan {line : List Char} {numbers : List (List Char)}
    (h : IsScan line numbers) :
    percentagesOf line = (numbers.filter fitsByte).map digitsValue := by
  have hnumber := h.isNumber
  rw [isScan_iff] at h
  unfold percentagesOf
  rw [← h]
  clear h
  induction numbers with
  | nil => rfl
  | cons digits numbers ih =>
    have hrest := ih fun d hd => hnumber d (List.mem_cons_of_mem digits hd)
    rw [List.filterMap_cons, boundedNumber_of_isNumber (hnumber digits List.mem_cons_self)]
    cases hfits : fitsByte digits
    · rw [List.filter_cons_of_neg (by simp [hfits])]
      exact hrest
    · rw [List.filter_cons_of_pos hfits, List.map_cons, ← hrest]
      rfl

/-- Of four digits the last three count, and 300 fits in no byte. -/
example : percentagesOf "5% of 1234%, 300%".toList = [5, 234] := by decide +kernel

end ScriptedShell.Remote
