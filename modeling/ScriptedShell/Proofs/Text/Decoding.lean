/-
# Decoding piece by piece

A byte below 0x80 is a character of its own and part of no other, so the forgiving reader can be
cut at it (`decodeLossy_append_cons`).  Every other character has a larger value than the control
characters, so the line breaks of a decoded text come from the bytes that break lines
(`not_isLineBreak_of_mem_decodeLossy`).
-/
import Mathlib
import ScriptedShell.Text.Class
import ScriptedShell.Text.Utf8

namespace ScriptedShell.Text

/-! ## What a first byte announces -/

/-- Bytes that follow a first byte are at least 0x80. -/
theorem low_of_leadOf? {b : UInt8} {lead : Lead} (h : leadOf? b = some lead) :
    lead.follow = 0 ∨ 0x80 ≤ lead.low := by
  rw [leadOf?] at h
  split_ifs at h <;> cases h <;> simp

/-- A character is one byte below 0x80, or its value is at least 16. -/
theorem bits_of_leadOf? {b : UInt8} {lead : Lead} (h : leadOf? b = some lead) :
    (lead.follow = 0 ∧ lead.bits = b.toNat) ∨
      (lead.follow ≠ 0 ∧ 16 ≤ lead.bits * 64 + (lead.low - 0x80)) := by
  rw [leadOf?] at h
  split_ifs at h with _ htwo _ _ hthree _ hfour <;> cases h
  · exact .inl ⟨rfl, rfl⟩
  · rw [Bool.and_eq_true, decide_eq_true_eq, decide_eq_true_eq] at htwo
    exact .inr ⟨Nat.succ_ne_zero _, by dsimp only; omega⟩
  · exact .inr ⟨by decide, by decide⟩
  · exact .inr ⟨by decide, by decide⟩
  · rw [Bool.and_eq_true, decide_eq_true_eq, decide_eq_true_eq] at hthree
    exact .inr ⟨Nat.succ_ne_zero _, by dsimp only; omega⟩
  · exact .inr ⟨by decide, by decide⟩
  · rw [Bool.and_eq_true, decide_eq_true_eq, decide_eq_true_eq] at hfour
    exact .inr ⟨Nat.succ_ne_zero _, by dsimp only; omega⟩
  · exact .inr ⟨by decide, by decide⟩

/-- A byte below 0x80 is a character of its own. -/
theorem leadOf?_of_lt {b : UInt8} (h : b.toNat < 0x80) : leadOf? b = some ⟨0, 0, 0, b.toNat⟩ :=
  if_pos h

/-! ## Cutting at a byte below 0x80 -/

/-- The bytes that follow a first byte are not read past a byte below 0x80. -/
theorem readTail_append_cons {left low : Nat} (hlow : left = 0 ∨ 0x80 ≤ low) (high value : Nat)
    (front : List UInt8) {c : UInt8} (hc : c.toNat < 0x80) (rest : List UInt8) :
    readTail left low high value (front ++ c :: rest) =
      ((readTail left low high value front).1,
        (readTail left low high value front).2 ++ c :: rest) := by
  induction left generalizing low high value front with
  | zero => rfl
  | succ left ih =>
    have hlow : 0x80 ≤ low := hlow.resolve_left (Nat.succ_ne_zero left)
    cases front with
    | nil =>
      -- a byte below 0x80 is outside every range of bytes that follow
      have hout : ¬ (low ≤ c.toNat && c.toNat ≤ high) = true := by
        simp only [Bool.and_eq_true, decide_eq_true_eq]
        omega
      simp only [List.nil_append, readTail, if_neg hout]
    | cons b front =>
      rw [List.cons_append, readTail, readTail]
      split_ifs
      · exact ih (.inr le_rfl) _ _ _
      · rfl

/-- Reading can be cut at a byte below 0x80. -/
theorem utf8Pieces_append_cons (front : List UInt8) {c : UInt8} (hc : c.toNat < 0x80)
    (rest : List UInt8) :
    utf8Pieces (front ++ c :: rest) =
      utf8Pieces front ++ .char (Char.ofNat c.toNat) :: utf8Pieces rest := by
  induction front using utf8Pieces.induct with
  | case1 =>
    rw [utf8Pieces, List.nil_append, utf8Pieces, leadOf?_of_lt hc]
    rfl
  | case2 b front hlead ih =>
    rw [List.cons_append, utf8Pieces, hlead, utf8Pieces, hlead]
    exact congrArg (Utf8Piece.broken :: ·) ih
  | case3 b front lead hlead read c' hread ih =>
    rw [List.cons_append, utf8Pieces, hlead, utf8Pieces, hlead]
    dsimp only
    rw [readTail_append_cons (low_of_leadOf? hlead) _ _ _ hc, hread]
    exact congrArg (Utf8Piece.char c' :: ·) ih
  | case4 b front lead hlead read hread ih =>
    rw [List.cons_append, utf8Pieces, hlead, utf8Pieces, hlead]
    dsimp only
    rw [readTail_append_cons (low_of_leadOf? hlead) _ _ _ hc, hread]
    exact congrArg (Utf8Piece.broken :: ·) ih

@[simp] theorem decodeLossy_nil : decodeLossy [] = [] := by
  rw [decodeLossy, utf8Pieces]
  rfl

/-- **Decoding can be cut at a byte below 0x80.** -/
theorem decodeLossy_append_cons (front : List UInt8) {c : UInt8} (hc : c.toNat < 0x80)
    (rest : List UInt8) :
    decodeLossy (front ++ c :: rest) =
      decodeLossy front ++ Char.ofNat c.toNat :: decodeLossy rest := by
  rw [decodeLossy, utf8Pieces_append_cons front hc, List.map_append]
  rfl

/-- Bytes below 0x80 at the end are decoded one by one. -/
theorem decodeLossy_append (front : List UInt8) {rest : List UInt8}
    (hrest : ∀ c ∈ rest, c.toNat < 0x80) :
    decodeLossy (front ++ rest) =
      decodeLossy front ++ rest.map fun c => Char.ofNat c.toNat := by
  induction rest generalizing front with
  | nil => simp
  | cons c rest ih =>
    have hc : c.toNat < 0x80 := hrest c List.mem_cons_self
    have htail := ih [] fun d hd => hrest d (List.mem_cons_of_mem c hd)
    rw [List.nil_append, decodeLossy_nil, List.nil_append] at htail
    rw [decodeLossy_append_cons front hc, List.map_cons, htail]

/-! ## Characters of decoded texts -/

/-- The bytes left after a character are at the end of those before. -/
theorem readTail_suffix (left low high value : Nat) (bytes : List UInt8) :
    (readTail left low high value bytes).2 <:+ bytes := by
  induction left generalizing low high value bytes with
  | zero => exact List.suffix_rfl
  | succ left ih =>
    cases bytes with
    | nil => exact List.suffix_rfl
    | cons b rest =>
      rw [readTail]
      split_ifs
      · exact (ih _ _ _ rest).trans (List.suffix_cons b rest)
      · exact List.suffix_rfl

/-- The value of a character of several bytes is at least what its first two bytes bring. -/
theorem exists_of_readTail {left low high value : Nat} {bytes : List UInt8} {c : Char}
    (h : (readTail (left + 1) low high value bytes).1 = some c) :
    ∃ n, value * 64 + (low - 0x80) ≤ n ∧ c = Char.ofNat n := by
  induction left generalizing low high value bytes with
  | zero =>
    cases bytes with
    | nil => simp [readTail] at h
    | cons b rest =>
      rw [readTail] at h
      split_ifs at h with hin
      rw [Bool.and_eq_true, decide_eq_true_eq] at hin
      rw [readTail] at h
      exact ⟨_, by omega, (Option.some.inj h).symm⟩
  | succ left ih =>
    cases bytes with
    | nil => simp [readTail] at h
    | cons b rest =>
      rw [readTail] at h
      split_ifs at h with hin
      rw [Bool.and_eq_true, decide_eq_true_eq] at hin
      obtain ⟨n, hn, rfl⟩ := ih h
      exact ⟨n, by omega, rfl⟩

/-- A character is a line break only by its value. -/
theorem isLineBreak_ofNat {n : Nat} (h : isLineBreak (Char.ofNat n) = true) :
    n = 10 ∨ n = 13 := by
  have hcode : (Char.ofNat n).toNat = 10 ∨ (Char.ofNat n).toNat = 13 := by
    rw [isLineBreak, Bool.or_eq_true, decide_eq_true_eq, decide_eq_true_eq] at h
    rcases h with h | h
    · exact .inl (by rw [h]; rfl)
    · exact .inr (by rw [h]; rfl)
  rw [Char.toNat_ofNat] at hcode
  split_ifs at hcode
  · exact hcode
  · simp at hcode

/-- Only a byte that is a line break begins one. -/
theorem eq_of_isLineBreak {b : UInt8} {lead : Lead} (hlead : leadOf? b = some lead)
    {rest : List UInt8} {c : Char}
    (hread : (readTail lead.follow lead.low lead.high lead.bits rest).1 = some c)
    (hc : isLineBreak c = true) : b.toNat = 10 ∨ b.toNat = 13 := by
  rcases bits_of_leadOf? hlead with ⟨hfollow, hbits⟩ | ⟨hfollow, hbits⟩
  · rw [hfollow, readTail] at hread
    cases hread
    rw [← hbits]
    exact isLineBreak_ofNat hc
  · -- a character of several bytes has too large a value
    obtain ⟨left, hleft⟩ := Nat.exists_eq_succ_of_ne_zero hfollow
    rw [hleft] at hread
    obtain ⟨n, hn, rfl⟩ := exists_of_readTail hread
    have hsmall := isLineBreak_ofNat hc
    omega

/-- Bytes none of which breaks a line are decoded to a text without line breaks. -/
theorem not_isLineBreak_of_mem_decodeLossy {bytes : List UInt8}
    (h : ∀ b ∈ bytes, b.toNat ≠ 10 ∧ b.toNat ≠ 13) {c : Char} (hc : c ∈ decodeLossy bytes) :
    isLineBreak c = false := by
  rw [decodeLossy, List.mem_map] at hc
  obtain ⟨piece, hpiece, rfl⟩ := hc
  induction bytes using utf8Pieces.induct with
  | case1 =>
    rw [utf8Pieces] at hpiece
    cases hpiece
  | case2 b rest hlead ih =>
    rw [utf8Pieces, hlead] at hpiece
    rcases List.mem_cons.mp hpiece with rfl | hpiece
    · decide
    · exact ih (fun d hd => h d (List.mem_cons_of_mem b hd)) hpiece
  | case3 b rest lead hlead read c hread ih =>
    rw [utf8Pieces, hlead] at hpiece
    dsimp only at hpiece
    rw [hread] at hpiece
    rcases List.mem_cons.mp hpiece with rfl | hpiece
    · rw [← Bool.not_eq_true]
      intro hbreak
      have hb := h b List.mem_cons_self
      rcases eq_of_isLineBreak hlead hread hbreak with hfeed | hreturn
      · exact hb.1 hfeed
      · exact hb.2 hreturn
    · have hsuffix := readTail_suffix lead.follow lead.low lead.high lead.bits rest
      exact ih (fun d hd => h d (List.mem_cons_of_mem b (hsuffix.mem hd))) hpiece
  | case4 b rest lead hlead read hread ih =>
    rw [utf8Pieces, hlead] at hpiece
    dsimp only at hpiece
    rw [hread] at hpiece
    rcases List.mem_cons.mp hpiece with rfl | hpiece
    · decide
    · have hsuffix := readTail_suffix lead.follow lead.low lead.high lead.bits rest
      exact ih (fun d hd => h d (List.mem_cons_of_mem b (hsuffix.mem hd))) hpiece

end ScriptedShell.Text
