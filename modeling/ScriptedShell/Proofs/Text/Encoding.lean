/-
# Decoding what was encoded

The forgiving reader gives back every character whose bytes it reads from the first one on
(`utf8Pieces_utf8EncodeChar`).  When it begins inside a character, it puts one replacement
character for each byte that is left of it, and reads on with the next character: so of the end of
an encoded text it reads replacement characters and the end of the text
(`exists_decodeLossy_suffix`).
-/
import Mathlib
import ScriptedShell.Proofs.Text.Decoding

namespace ScriptedShell.Text

/-! ## What the bytes of a character announce -/

/-- The first byte of a character of two bytes. -/
theorem leadOf?_two {v : Nat} (hlow : 0x80 ≤ v) (hhigh : v ≤ 0x7FF) :
    leadOf? (UInt8.ofNat (v / 64 % 32 + 192)) = some ⟨1, 0x80, 0xBF, v / 64⟩ := by
  have hbyte : (UInt8.ofNat (v / 64 % 32 + 192)).toNat = v / 64 + 192 := by
    rw [UInt8.toNat_ofNat_of_lt' (by simp only [UInt8.size]; omega)]
    omega
  rw [leadOf?, hbyte, if_neg (by omega), if_pos (by simp; omega), Nat.add_sub_cancel]

/-- The first byte of a character of three bytes, and the bounds that the second one keeps to. -/
theorem leadOf?_three {v : Nat} (hlow : 0x800 ≤ v) (hhigh : v ≤ 0xFFFF)
    (hvalid : v < 0xD800 ∨ 0xDFFF < v) :
    ∃ low high, leadOf? (UInt8.ofNat (v / 4096 % 16 + 224)) = some ⟨2, low, high, v / 4096⟩ ∧
      low ≤ v / 64 % 64 + 128 ∧ v / 64 % 64 + 128 ≤ high := by
  have hbyte : (UInt8.ofNat (v / 4096 % 16 + 224)).toNat = v / 4096 + 224 := by
    rw [UInt8.toNat_ofNat_of_lt' (by simp only [UInt8.size]; omega)]
    omega
  rw [leadOf?, hbyte, if_neg (by omega), if_neg (by simp)]
  by_cases hfirst : v / 4096 = 0
  · rw [if_pos (by simp [hfirst]), hfirst]
    exact ⟨_, _, rfl, by omega, by omega⟩
  by_cases hlast : v / 4096 = 13
  · rw [if_neg (by simp [hfirst]), if_pos (by simp [hlast]), hlast]
    exact ⟨_, _, rfl, by omega, by omega⟩
  · rw [if_neg (by simp [hfirst]), if_neg (by simp; omega), if_pos (by simp; omega),
      Nat.add_sub_cancel]
    exact ⟨_, _, rfl, by omega, by omega⟩

/-- The first byte of a character of four bytes, and the bounds that the second one keeps to. -/
theorem leadOf?_four {v : Nat} (hlow : 0x10000 ≤ v) (hhigh : v < 0x110000) :
    ∃ low high, leadOf? (UInt8.ofNat (v / 262144 % 8 + 240)) = some ⟨3, low, high, v / 262144⟩ ∧
      low ≤ v / 4096 % 64 + 128 ∧ v / 4096 % 64 + 128 ≤ high := by
  have hbyte : (UInt8.ofNat (v / 262144 % 8 + 240)).toNat = v / 262144 + 240 := by
    rw [UInt8.toNat_ofNat_of_lt' (by simp only [UInt8.size]; omega)]
    omega
  rw [leadOf?, hbyte, if_neg (by omega), if_neg (by simp), if_neg (by simp), if_neg (by simp),
    if_neg (by simp)]
  by_cases hfirst : v / 262144 = 0
  · rw [if_pos (by simp [hfirst]), hfirst]
    exact ⟨_, _, rfl, by omega, by omega⟩
  by_cases hlast : v / 262144 = 4
  · rw [if_neg (by simp [hfirst]), if_neg (by simp; omega), if_pos (by simp [hlast]), hlast]
    exact ⟨_, _, rfl, by omega, by omega⟩
  · rw [if_neg (by simp [hfirst]), if_pos (by simp; omega), Nat.add_sub_cancel]
    exact ⟨_, _, rfl, by omega, by omega⟩

/-- A byte within the bounds is read, and brings its last six bits. -/
theorem readTail_ofNat {left low high value n : Nat} (hlow : low ≤ n + 128) (hhigh : n + 128 ≤ high)
    (hn : n < 64) (rest : List UInt8) :
    readTail (left + 1) low high value (UInt8.ofNat (n + 128) :: rest) =
      readTail left 0x80 0xBF (value * 64 + n) rest := by
  have hbyte : (UInt8.ofNat (n + 128)).toNat = n + 128 :=
    UInt8.toNat_ofNat_of_lt' (by simp only [UInt8.size]; omega)
  rw [readTail, hbyte, if_pos (by simp; omega), Nat.add_sub_cancel]

/-! ## Reading characters back -/

/-- Where a character begins, the reader reads on after its bytes. -/
theorem utf8Pieces_of_lead {b : UInt8} {lead : Lead} (hlead : leadOf? b = some lead)
    {bytes rest : List UInt8} {c : Char}
    (hread : readTail lead.follow lead.low lead.high lead.bits bytes = (some c, rest)) :
    utf8Pieces (b :: bytes) = .char c :: utf8Pieces rest := by
  rw [utf8Pieces, hlead]
  dsimp only
  rw [hread]

/-- **The bytes of a character are read as that character.** -/
theorem utf8Pieces_utf8EncodeChar (c : Char) (rest : List UInt8) :
    utf8Pieces (String.utf8EncodeChar c ++ rest) = .char c :: utf8Pieces rest := by
  have hc : Char.ofNat c.val.toNat = c := Char.ofNat_toNat c
  have hvalid : c.val.toNat < 0xD800 ∨ (0xDFFF < c.val.toNat ∧ c.val.toNat < 0x110000) := c.valid
  rw [String.utf8EncodeChar]
  generalize c.val.toNat = v at hc hvalid
  split_ifs with hone htwo hthree <;> simp only [List.cons_append, List.nil_append]
  · have hbyte : (UInt8.ofNat v).toNat = v :=
      UInt8.toNat_ofNat_of_lt' (by simp only [UInt8.size]; omega)
    refine utf8Pieces_of_lead (leadOf?_of_lt (by omega)) ?_
    rw [hbyte, readTail, hc]
  · refine utf8Pieces_of_lead (leadOf?_two (by omega) htwo) ?_
    dsimp only
    rw [readTail_ofNat (by omega) (by omega) (by omega), readTail,
      show v / 64 * 64 + v % 64 = v by omega, hc]
  · obtain ⟨low, high, hlead, hlow, hhigh⟩ := leadOf?_three (by omega) hthree (by omega)
    refine utf8Pieces_of_lead hlead ?_
    rw [readTail_ofNat hlow hhigh (by omega), readTail_ofNat (by omega) (by omega) (by omega),
      readTail, show (v / 4096 * 64 + v / 64 % 64) * 64 + v % 64 = v by omega, hc]
  · obtain ⟨low, high, hlead, hlow, hhigh⟩ := leadOf?_four (v := v) (by omega) (by omega)
    refine utf8Pieces_of_lead hlead ?_
    rw [readTail_ofNat hlow hhigh (by omega), readTail_ofNat (by omega) (by omega) (by omega),
      readTail_ofNat (by omega) (by omega) (by omega), readTail,
      show ((v / 262144 * 64 + v / 4096 % 64) * 64 + v / 64 % 64) * 64 + v % 64 = v by omega, hc]

/-- The bytes of a text are read as that text. -/
theorem decodeLossy_encode_append (cs : List Char) (rest : List UInt8) :
    decodeLossy (encode cs ++ rest) = cs ++ decodeLossy rest := by
  induction cs with
  | nil => rfl
  | cons c cs ih =>
    have hencode : encode (c :: cs) = String.utf8EncodeChar c ++ encode cs := rfl
    rw [hencode, List.append_assoc, decodeLossy, utf8Pieces_utf8EncodeChar, List.map_cons,
      ← decodeLossy, ih]
    rfl

/-- What is encoded and decoded again is the same text. -/
theorem decodeLossy_encode (cs : List Char) : decodeLossy (encode cs) = cs := by
  have hread := decodeLossy_encode_append cs []
  rwa [List.append_nil, decodeLossy_nil, List.append_nil] at hread

/-- The strict reader gives back the text that was encoded. -/
theorem decode?_encode (cs : List Char) : decode? (encode cs) = some cs := by
  induction cs with
  | nil =>
    have hencode : encode [] = [] := rfl
    rw [hencode, decode?, utf8Pieces]
    rfl
  | cons c cs ih =>
    have hencode : encode (c :: cs) = String.utf8EncodeChar c ++ encode cs := rfl
    rw [decode?] at ih
    rw [hencode, decode?, utf8Pieces_utf8EncodeChar, List.mapM_cons, ih]
    rfl

/-- What a loop over an array of bytes has gathered and has still to gather. -/
theorem toList_loop (bytes : ByteArray) (i : Nat) (done : List UInt8) :
    ByteArray.toList.loop bytes i done = done.reverse ++ bytes.data.toList.drop i := by
  fun_induction ByteArray.toList.loop bytes i done with
  | case1 i done hi ih =>
    have hlength : i < bytes.data.toList.length := by simpa using hi
    have hget : bytes.get! i = bytes.data.toList[i] := by
      rw [ByteArray.get!, getElem!_pos bytes.data i (by simpa using hi), Array.getElem_toList]
    rw [ih, List.drop_eq_getElem_cons hlength, hget, List.reverse_cons, List.append_assoc]
    rfl
  | case2 i done hi =>
    rw [List.drop_eq_nil_of_le (by simpa using hi), List.append_nil]

/-- The bytes of a string are those of its characters. -/
theorem toList_toUTF8 (s : String) : s.toUTF8.toList = encode s.toList := by
  have hbytes : s.toUTF8 = (encode s.toList).toByteArray := by
    rw [String.toUTF8_eq_toByteArray, ← String.utf8Encode_toList, List.utf8Encode, encode]
  rw [ByteArray.toList, toList_loop, hbytes, List.toList_data_toByteArray]
  rfl

/-- A byte below 0x80 among the bytes of a character is that character. -/
theorem toNat_of_mem_utf8EncodeChar {c : Char} {b : UInt8} (h : b ∈ String.utf8EncodeChar c)
    (hlow : b.toNat < 0x80) : b.toNat = c.toNat := by
  have hhigh (n : Nat) (hn : 0x80 ≤ n) (hsize : n < 0x100) (heq : b = UInt8.ofNat n) : False := by
    rw [heq, UInt8.toNat_ofNat_of_lt' hsize] at hlow
    omega
  have hvalue : c.val.toNat = c.toNat := rfl
  rw [String.utf8EncodeChar, hvalue] at h
  split_ifs at h with hone
  · rw [List.mem_singleton.mp h, UInt8.toNat_ofNat_of_lt' (by simp only [UInt8.size]; omega)]
  all_goals
    simp only [List.mem_cons, List.not_mem_nil, or_false] at h
    rcases h with rfl | rfl | rfl | rfl <;> exact (hhigh _ (by omega) (by omega) rfl).elim

/-! ## Beginning inside a character -/

/-- No character begins with a later byte of another one. -/
theorem leadOf?_of_mem_tail {c : Char} {b : UInt8} (h : b ∈ (String.utf8EncodeChar c).tail) :
    leadOf? b = none := by
  have hlater (n : Nat) (hn : n < 64) : leadOf? (UInt8.ofNat (n + 128)) = none := by
    have hbyte : (UInt8.ofNat (n + 128)).toNat = n + 128 :=
      UInt8.toNat_ofNat_of_lt' (by simp only [UInt8.size]; omega)
    rw [leadOf?, hbyte, if_neg (by omega), if_neg (by simp; omega), if_neg (by simp; omega),
      if_neg (by simp; omega), if_neg (by simp; omega), if_neg (by simp; omega),
      if_neg (by simp; omega), if_neg (by simp; omega)]
  rw [String.utf8EncodeChar] at h
  generalize c.val.toNat = v at h
  split_ifs at h
  · exact absurd h List.not_mem_nil
  all_goals
    simp only [List.tail_cons, List.mem_cons, List.not_mem_nil, or_false] at h
    rcases h with rfl | rfl | rfl <;> exact hlater _ (by omega)

/-- Bytes with which no character begins are read as replacement characters. -/
theorem decodeLossy_of_no_lead {bytes : List UInt8} (h : ∀ b ∈ bytes, leadOf? b = none)
    (rest : List UInt8) :
    decodeLossy (bytes ++ rest) =
      List.replicate bytes.length replacementChar ++ decodeLossy rest := by
  induction bytes with
  | nil => rfl
  | cons b bytes ih =>
    rw [List.cons_append, decodeLossy, utf8Pieces, h b List.mem_cons_self]
    dsimp only
    rw [List.map_cons, ← decodeLossy, ih fun d hd => h d (List.mem_cons_of_mem b hd)]
    rfl

/-- **Of the end of an encoded text** replacement characters and the end of the text are read,
whatever follows. -/
theorem exists_decodeLossy_suffix {cs : List Char} {bytes : List UInt8}
    (h : bytes <:+ encode cs) :
    ∃ n cs', cs' <:+ cs ∧ ∀ rest, decodeLossy (bytes ++ rest) =
      List.replicate n replacementChar ++ (cs' ++ decodeLossy rest) := by
  induction cs with
  | nil =>
    have hnil : bytes = [] := List.suffix_nil.mp h
    exact ⟨0, [], List.suffix_rfl, fun rest => by rw [hnil]; rfl⟩
  | cons c cs ih =>
    obtain ⟨front, hfront⟩ := h
    have hencode : encode (c :: cs) = String.utf8EncodeChar c ++ encode cs := rfl
    rw [hencode] at hfront
    rcases List.append_eq_append_iff.mp hfront with ⟨part, hchar, rfl⟩ | ⟨skipped, -, hrest⟩
    · cases front with
      | nil =>
        -- nothing of the character is missing
        rw [List.nil_append] at hchar
        refine ⟨0, c :: cs, List.suffix_rfl, fun rest => ?_⟩
        rw [← hchar, ← hencode, decodeLossy_encode_append]
        rfl
      | cons b front =>
        have hlater : ∀ d ∈ part, leadOf? d = none := by
          intro d hd
          refine leadOf?_of_mem_tail (c := c) ?_
          rw [hchar]
          exact List.mem_append_right front hd
        refine ⟨part.length, cs, List.suffix_cons c cs, fun rest => ?_⟩
        rw [List.append_assoc, decodeLossy_of_no_lead hlater, decodeLossy_encode_append]
    · obtain ⟨n, cs', hsuffix, hread⟩ := ih ⟨skipped, hrest.symm⟩
      exact ⟨n, cs', hsuffix.trans (List.suffix_cons c cs), hread⟩

end ScriptedShell.Text
