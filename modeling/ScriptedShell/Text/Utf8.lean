/-
# UTF-8

Reading bytes as text.  A byte sequence is read character by character; where no character begins,
the longest stretch of bytes that could still have begun one is a broken piece.  The forgiving
reader puts the replacement character for each broken piece, the strict reader refuses the text.
-/

namespace ScriptedShell.Text

/-- What a first byte announces: how many bytes follow, the bounds of the first of them, and the
bits that the first byte itself brings. -/
structure Lead where
  follow : Nat
  low : Nat
  high : Nat
  bits : Nat

/-- What a byte announces as the first byte of a character, if it can be one. -/
def leadOf? (b : UInt8) : Option Lead :=
  let n := b.toNat
  if n < 0x80 then some ⟨0, 0, 0, n⟩
  else if 0xC2 ≤ n && n ≤ 0xDF then some ⟨1, 0x80, 0xBF, n - 0xC0⟩
  else if n == 0xE0 then some ⟨2, 0xA0, 0xBF, 0⟩
  else if n == 0xED then some ⟨2, 0x80, 0x9F, 0xD⟩
  else if 0xE1 ≤ n && n ≤ 0xEF then some ⟨2, 0x80, 0xBF, n - 0xE0⟩
  else if n == 0xF0 then some ⟨3, 0x90, 0xBF, 0⟩
  else if 0xF1 ≤ n && n ≤ 0xF3 then some ⟨3, 0x80, 0xBF, n - 0xF0⟩
  else if n == 0xF4 then some ⟨3, 0x80, 0x8F, 4⟩
  else none

/-- One step of a reader: a character, or a broken piece. -/
inductive Utf8Piece where
  | char (c : Char)
  | broken
  deriving Repr, DecidableEq

/-- Read the bytes that follow a first byte: `left` of them, the first between `low` and `high`,
with the value so far.  Gives the character if all are there, and the rest of the bytes. -/
def readTail : (left low high value : Nat) → List UInt8 → Option Char × List UInt8
  | 0, _, _, value, rest => (some (Char.ofNat value), rest)
  | _ + 1, _, _, _, [] => (none, [])
  | left + 1, low, high, value, b :: rest =>
    if low ≤ b.toNat && b.toNat ≤ high then
      readTail left 0x80 0xBF (value * 64 + (b.toNat - 0x80)) rest
    else (none, b :: rest)

theorem readTail_length (left low high value : Nat) (bytes : List UInt8) :
    (readTail left low high value bytes).2.length ≤ bytes.length := by
  induction left generalizing low high value bytes with
  | zero => simp [readTail]
  | succ left ih =>
    cases bytes with
    | nil => simp [readTail]
    | cons b rest =>
      rw [readTail]
      split
      · exact Nat.le_trans (ih _ _ _ _) (by simp)
      · simp

/-- The characters and broken pieces of a byte sequence, in order. -/
def utf8Pieces : List UInt8 → List Utf8Piece
  | [] => []
  | b :: rest =>
    match leadOf? b with
    | none => .broken :: utf8Pieces rest
    | some lead =>
      let read := readTail lead.follow lead.low lead.high lead.bits rest
      match read.1 with
      | some c => .char c :: utf8Pieces read.2
      | none => .broken :: utf8Pieces read.2
  termination_by bytes => bytes.length
  decreasing_by
    · simp
    · have := readTail_length lead.follow lead.low lead.high lead.bits rest
      simp only [List.length_cons]; omega
    · have := readTail_length lead.follow lead.low lead.high lead.bits rest
      simp only [List.length_cons]; omega

/-- The replacement character, put for a broken piece. -/
def replacementChar : Char := Char.ofNat 0xFFFD

/-- The text of a byte sequence, with the replacement character for each broken piece. -/
def decodeLossy (bytes : List UInt8) : List Char :=
  (utf8Pieces bytes).map fun
    | .char c => c
    | .broken => replacementChar

/-- The text of a byte sequence, if no piece of it is broken. -/
def decode? (bytes : List UInt8) : Option (List Char) :=
  (utf8Pieces bytes).mapM fun
    | .char c => some c
    | .broken => none

/-- The bytes of a text. -/
def encode (cs : List Char) : List UInt8 := cs.flatMap String.utf8EncodeChar

end ScriptedShell.Text
