/-
# Reading bytes line by line

Bytes are read up to the last line break; what stands after it is kept.  When no control sequence
reaches over a break, the lines of bytes are the lines of their parts (`linesOf_append_cons`), and
spaces and tabs after a line make no difference to it (`trim_readText_append`).
-/
import Mathlib
import ScriptedShell.Proofs.Terminal.Escape
import ScriptedShell.Proofs.Text.Decoding
import ScriptedShell.Proofs.Text.Lines
import ScriptedShell.Proofs.Text.Trim
import ScriptedShell.Remote.Inbox

namespace ScriptedShell.Remote.Inbox

open Text Terminal

/-! ## The last line break -/

/-- Whether no byte breaks lines. -/
def Breakless (bytes : List UInt8) : Prop := ∀ c ∈ bytes, isBreakByte c = false

theorem breakless_nil : Breakless [] := fun _ hc => nomatch hc

/-- A line goes on past bytes without a break. -/
theorem Breakless.takeWhile_append {front : List UInt8} (h : Breakless front)
    (rest : List UInt8) :
    ((front ++ rest).takeWhile fun c => !isBreakByte c) =
      front ++ rest.takeWhile fun c => !isBreakByte c := by
  refine List.takeWhile_append_of_pos fun c hc => ?_
  rw [h c hc]
  rfl

/-- Bytes without a break are a line up to their end. -/
theorem Breakless.takeWhile_eq {bytes : List UInt8} (h : Breakless bytes) :
    (bytes.takeWhile fun c => !isBreakByte c) = bytes := by
  simpa using h.takeWhile_append []

/-- A line goes up to the first break. -/
theorem Breakless.takeWhile_append_cons {front : List UInt8} (h : Breakless front) {c : UInt8}
    (hc : isBreakByte c = true) (rest : List UInt8) :
    ((front ++ c :: rest).takeWhile fun c => !isBreakByte c) = front := by
  rw [h.takeWhile_append, List.takeWhile_cons_of_neg (by simp [hc]), List.append_nil]

/-- Bytes have no break, or a last one. -/
theorem breakless_or_exists_last (bytes : List UInt8) :
    Breakless bytes ∨
      ∃ front c rest, bytes = front ++ c :: rest ∧ isBreakByte c = true ∧ Breakless rest := by
  induction bytes with
  | nil => exact .inl breakless_nil
  | cons d bytes ih =>
    rcases ih with hbytes | ⟨front, c, rest, rfl, hc, hrest⟩
    · cases hd : isBreakByte d with
      | false => exact .inl (List.forall_mem_cons.mpr ⟨hd, hbytes⟩)
      | true => exact .inr ⟨[], d, bytes, rfl, hd, hbytes⟩
    · exact .inr ⟨d :: front, c, rest, rfl, hc, hrest⟩

/-- Bytes have no break, or a first one. -/
theorem breakless_or_exists_first (bytes : List UInt8) :
    Breakless bytes ∨
      ∃ front c rest, bytes = front ++ c :: rest ∧ isBreakByte c = true ∧ Breakless front := by
  induction bytes with
  | nil => exact .inl breakless_nil
  | cons d bytes ih =>
    cases hd : isBreakByte d with
    | true => exact .inr ⟨[], d, bytes, rfl, hd, breakless_nil⟩
    | false =>
      rcases ih with hbytes | ⟨front, c, rest, rfl, hc, hfront⟩
      · exact .inl (List.forall_mem_cons.mpr ⟨hd, hbytes⟩)
      · exact .inr ⟨d :: front, c, rest, rfl, hc, List.forall_mem_cons.mpr ⟨hd, hfront⟩⟩

/-- Bytes without a break are all kept. -/
theorem cutAtLastBreak_of_breakless {bytes : List UInt8} (h : Breakless bytes) :
    cutAtLastBreak bytes = ([], bytes) := by
  have hreverse : Breakless bytes.reverse := fun c hc => h c (List.mem_reverse.mp hc)
  rw [cutAtLastBreak, hreverse.takeWhile_eq]
  simp

/-- What follows the last break is kept. -/
theorem cutAtLastBreak_of_last (front : List UInt8) {c : UInt8} (hc : isBreakByte c = true)
    {rest : List UInt8} (hrest : Breakless rest) :
    cutAtLastBreak (front ++ c :: rest) = (front ++ [c], rest) := by
  have hreverse : Breakless rest.reverse := fun d hd => hrest d (List.mem_reverse.mp hd)
  have htail : ((front ++ c :: rest).reverse.takeWhile fun b => !isBreakByte b) =
      rest.reverse := by
    rw [List.reverse_append, List.reverse_cons, List.append_assoc, List.singleton_append,
      hreverse.takeWhile_append_cons hc]
  have hlength : (front ++ c :: rest).length - rest.length = (front ++ [c]).length := by
    simp only [List.length_append, List.length_cons, List.length_nil]
    omega
  rw [cutAtLastBreak, htail, List.reverse_reverse, hlength,
    List.append_cons front c rest, List.take_left]

/-- The part that is kept has no break. -/
theorem breakless_cutAtLastBreak (bytes : List UInt8) : Breakless (cutAtLastBreak bytes).2 := by
  rcases breakless_or_exists_last bytes with hbytes | ⟨front, c, rest, rfl, hc, hrest⟩
  · rwa [cutAtLastBreak_of_breakless hbytes]
  · rwa [cutAtLastBreak_of_last front hc hrest]

/-- Bytes without a break are kept besides what is kept before them. -/
theorem cutAtLastBreak_append_breakless (bytes : List UInt8) {more : List UInt8}
    (hmore : Breakless more) :
    cutAtLastBreak (bytes ++ more) =
      ((cutAtLastBreak bytes).1, (cutAtLastBreak bytes).2 ++ more) := by
  rcases breakless_or_exists_last bytes with hbytes | ⟨front, c, rest, rfl, hc, hrest⟩
  · rw [cutAtLastBreak_of_breakless hbytes, cutAtLastBreak_of_breakless]
    exact List.forall_mem_append.mpr ⟨hbytes, hmore⟩
  · rw [cutAtLastBreak_of_last front hc hrest, List.append_assoc, List.cons_append,
      cutAtLastBreak_of_last front hc]
    exact List.forall_mem_append.mpr ⟨hrest, hmore⟩

/-- Only what follows a break can be kept. -/
theorem cutAtLastBreak_append_cons (front : List UInt8) {c : UInt8} (hc : isBreakByte c = true)
    (rest : List UInt8) :
    cutAtLastBreak (front ++ c :: rest) =
      (front ++ c :: (cutAtLastBreak rest).1, (cutAtLastBreak rest).2) := by
  rcases breakless_or_exists_last rest with hrest | ⟨middle, d, rest, rfl, hd, hrest⟩
  · rw [cutAtLastBreak_of_last front hc hrest, cutAtLastBreak_of_breakless hrest]
  · rw [cutAtLastBreak_of_last middle hd hrest, ← List.cons_append, ← List.append_assoc,
      cutAtLastBreak_of_last _ hd hrest, List.append_assoc, List.cons_append]

/-- What is kept of bytes goes on, with what follows, as a line of all of them. -/
theorem takeWhile_mem_splitAtEach (bytes more : List UInt8) :
    (((cutAtLastBreak bytes).2 ++ more).takeWhile fun c => !isBreakByte c) ∈
      splitAtEach isBreakByte (bytes ++ more) := by
  rcases breakless_or_exists_last bytes with hbytes | ⟨front, c, rest, rfl, hc, hrest⟩
  · obtain ⟨lines, hlines⟩ := splitAtEach_eq_cons isBreakByte (bytes ++ more)
    rw [cutAtLastBreak_of_breakless hbytes, hlines]
    exact List.mem_cons_self
  · obtain ⟨lines, hlines⟩ := splitAtEach_eq_cons isBreakByte (rest ++ more)
    rw [cutAtLastBreak_of_last front hc hrest, List.append_assoc, List.cons_append,
      splitAtEach_append_cons front hc, hlines]
    exact List.mem_append_right _ List.mem_cons_self

/-! ## The text of lines -/

/-- The lines of bytes. -/
def linesOf (bytes : List UInt8) : List (List Char) := splitBreaks (readText bytes)

/-- Whether no control sequence is open after bytes. -/
def IsClosed (bytes : List UInt8) : Prop :=
  (scanState .plain (decodeLossy bytes)).isOpen = false

/-- Whether bytes are spaces and tabs. -/
def AreBlank (bytes : List UInt8) : Prop := ∀ c ∈ bytes, c = 32 ∨ c = 9

/-- A byte that breaks lines is one of two. -/
theorem isBreakByte_iff (c : UInt8) : isBreakByte c = true ↔ c = 10 ∨ c = 13 := by
  rw [isBreakByte, Bool.or_eq_true, beq_iff_eq, beq_iff_eq]

/-- A byte that breaks lines is a character that breaks lines. -/
theorem isLineBreak_of_isBreakByte {c : UInt8} (hc : isBreakByte c = true) :
    c.toNat < 0x80 ∧ isLineBreak (Char.ofNat c.toNat) = true := by
  rcases (isBreakByte_iff c).mp hc with rfl | rfl <;> decide

/-- Reading goes line by line where no control sequence is open. -/
theorem readText_append_cons {front : List UInt8} (hfront : IsClosed front) {c : UInt8}
    (hc : isBreakByte c = true) (rest : List UInt8) :
    readText (front ++ c :: rest) =
      readText front ++ Char.ofNat c.toNat :: readText rest := by
  obtain ⟨hlow, hbreak⟩ := isLineBreak_of_isBreakByte hc
  rw [readText, decodeLossy_append_cons front hlow, strip_append_break hfront hbreak]
  rfl

/-- **The lines of bytes are the lines of their parts** where no control sequence is open. -/
theorem linesOf_append_cons {front : List UInt8} (hfront : IsClosed front) {c : UInt8}
    (hc : isBreakByte c = true) (rest : List UInt8) :
    linesOf (front ++ c :: rest) = linesOf front ++ linesOf rest := by
  rw [linesOf, readText_append_cons hfront hc, splitBreaks,
    splitAtEach_append_cons _ (isLineBreak_of_isBreakByte hc).2]
  rfl

/-- Where no control sequence is open, the state after a break is that of what follows. -/
theorem isClosed_append_cons {front : List UInt8} (hfront : IsClosed front) {c : UInt8}
    (hc : isBreakByte c = true) (rest : List UInt8) :
    IsClosed (front ++ c :: rest) ↔ IsClosed rest := by
  obtain ⟨hlow, hbreak⟩ := isLineBreak_of_isBreakByte hc
  rw [IsClosed, decodeLossy_append_cons front hlow, scanState_append_break hfront hbreak]
  rfl

/-- Bytes without a break are one line. -/
theorem linesOf_of_breakless {bytes : List UInt8} (h : Breakless bytes) :
    linesOf bytes = [readText bytes] := by
  have hvalues : ∀ c ∈ bytes, c.toNat ≠ 10 ∧ c.toNat ≠ 13 := by
    intro c hc
    have hnot := h c hc
    rw [← Bool.not_eq_true, isBreakByte_iff, not_or] at hnot
    exact ⟨fun heq => hnot.1 (UInt8.toNat_inj.mp heq), fun heq => hnot.2 (UInt8.toNat_inj.mp heq)⟩
  rw [linesOf, splitBreaks, splitAtEach_eq_singleton]
  intro c hc
  exact not_isLineBreak_of_mem_decodeLossy hvalues ((stripFrom_sublist _ _).mem hc)

/-! ## Blanks after a line -/

theorem areBlank_nil : AreBlank [] := fun _ hc => nomatch hc

/-- Spaces and tabs have no break among them. -/
theorem AreBlank.breakless {bytes : List UInt8} (h : AreBlank bytes) : Breakless bytes := by
  intro c hc
  rcases h c hc with rfl | rfl <;> rfl

/-- Spaces and tabs are decoded to blanks. -/
theorem AreBlank.decodeLossy_append {blanks : List UInt8} (h : AreBlank blanks)
    (front : List UInt8) :
    ∃ more : List Char, decodeLossy (front ++ blanks) = decodeLossy front ++ more ∧
      ∀ c ∈ more, c = ' ' ∨ c = '\t' := by
  have hlow : ∀ c ∈ blanks, c.toNat < 0x80 := by
    intro c hc
    rcases h c hc with rfl | rfl <;> decide
  refine ⟨_, Text.decodeLossy_append front hlow, fun c hc => ?_⟩
  obtain ⟨b, hb, rfl⟩ := List.mem_map.mp hc
  rcases h b hb with rfl | rfl <;> decide

/-- Spaces and tabs after bytes make no difference once the text is trimmed. -/
theorem trim_readText_append (front : List UInt8) {blanks : List UInt8} (h : AreBlank blanks) :
    trim (readText (front ++ blanks)) = trim (readText front) := by
  obtain ⟨more, hmore, hblank⟩ := h.decodeLossy_append front
  rw [readText, hmore, strip, stripFrom_append]
  refine trim_append_blanks _ fun c hc => ?_
  rcases hblank c ((stripFrom_sublist _ _).mem hc) with rfl | rfl <;> decide

/-- Spaces and tabs are trimmed to nothing. -/
theorem AreBlank.trim_readText {blanks : List UInt8} (h : AreBlank blanks) :
    trim (readText blanks) = [] := by
  have hempty := trim_readText_append [] h
  rw [List.nil_append, readText, readText, decodeLossy_nil] at hempty
  exact hempty

/-- No control sequence is open after spaces and tabs. -/
theorem AreBlank.isClosed {blanks : List UInt8} (h : AreBlank blanks) : IsClosed blanks := by
  obtain ⟨more, hmore, hblank⟩ := h.decodeLossy_append []
  rw [decodeLossy_nil, List.nil_append, List.nil_append] at hmore
  rw [IsClosed, hmore]
  have hplain : scanState .plain more = .plain := by
    clear hmore
    induction more with
    | nil => rfl
    | cons c more ih =>
      have hc : ScanState.next .plain c = .plain := by
        rcases hblank c List.mem_cons_self with rfl | rfl <;> rfl
      rw [scanState, List.foldl_cons, hc]
      exact ih fun d hd => hblank d (List.mem_cons_of_mem c hd)
  rw [hplain]
  rfl

end ScriptedShell.Remote.Inbox
