/-
# Texts of bytes

Scripts and the programs that they start work on bytes.  Here a byte is the character with its
number, so that a text of bytes is a text whose characters are all below 256.
-/
import ScriptedShell.Text.Lines
import ScriptedShell.Text.Utf8

namespace ScriptedShell.Text

/-- The character that a byte is. -/
def octet (b : UInt8) : Char := Char.ofNat b.toNat

/-- The byte that a character below 256 is. -/
def byteOf (c : Char) : UInt8 := UInt8.ofNat c.toNat

/-- Bytes as a text of bytes. -/
def octets (bytes : List UInt8) : List Char := bytes.map octet

/-- The bytes of a text of bytes. -/
def bytesOf (cs : List Char) : List UInt8 := cs.map byteOf

/-- Whether a character is one byte by itself. -/
def isPlain (c : Char) : Bool := c.toNat < 128

/-- A text as a text of bytes. -/
def toOctets (s : String) : String :=
  if s.toList.all isPlain then s else String.ofList (octets s.toUTF8.toList)

/-- A text of bytes as a text. -/
def ofOctets (s : String) : String :=
  if s.toList.all isPlain then s else String.ofList (decodeLossy (bytesOf s.toList))

/-- Put the pieces before a list, in the order that they were found in. -/
def withPieces (p : α → Bool) : (piece : List α) → (done : List (List α)) → List α → List (List α)
  | piece, done, [] => (piece.reverse :: done).reverse
  | piece, done, c :: cs =>
    if p c then withPieces p [] (piece.reverse :: done) cs else withPieces p (c :: piece) done cs

/-- The pieces of a long list between the elements that satisfy `p`. -/
def piecesOf (p : α → Bool) (cs : List α) : List (List α) := withPieces p [] [] cs

/-- The lines of a text of bytes, and whether the last one ends with a line feed. -/
def rawLines (cs : List Char) : List (List Char) × Bool :=
  match (piecesOf (· = '\n') cs).reverse with
  | [] => ([], true)
  | [] :: lines => (lines.reverse, true)
  | last => (last.reverse, false)

/-- Lines as a text of bytes, where the last one may lack its line feed. -/
def unlines (lines : List (List Char)) (isEnded : Bool) : List Char :=
  let text := (lines.map fun line => line ++ ['\n']).flatten
  if isEnded then text else text.dropLast

end ScriptedShell.Text
