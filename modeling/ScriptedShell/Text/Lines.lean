/-
# Lines

Three ways to cut a text into lines: at every line-break character, at line feeds with an optional
carriage return before them, and to a fixed width.
-/
import ScriptedShell.Text.Blank
import ScriptedShell.Text.Class

namespace ScriptedShell.Text

/-- The pieces of a list between the elements that satisfy `p`; there is always at least one. -/
def splitAtEach (p : α → Bool) : List α → List (List α)
  | [] => [[]]
  | c :: cs =>
    if p c then [] :: splitAtEach p cs
    else match splitAtEach p cs with
      | [] => [[c]]
      | piece :: rest => (c :: piece) :: rest

/-- The pieces of a text between line-break characters. -/
def splitBreaks (cs : List Char) : List (List Char) := splitAtEach isLineBreak cs

/-- A line without the carriage return at its end, if there is one. -/
def dropReturn (line : List Char) : List Char :=
  match line.reverse with
  | '\r' :: rest => rest.reverse
  | _ => line

/-- The lines of a text: each ends with a line feed, before which one carriage return is left out;
a text after the last line feed is a line too, unless it is empty. -/
def textLines (cs : List Char) : List (List Char) :=
  let pieces := splitAtEach (· = '\n') cs
  let ended := pieces.dropLast.map dropReturn
  match pieces.getLast? with
  | some (c :: rest) => ended ++ [c :: rest]
  | _ => ended

/-- A text cut or filled with spaces to exactly `width` characters. -/
def fitChars (width : Nat) (cs : List Char) : List Char :=
  let cut := cs.take width
  cut ++ List.replicate (width - cut.length) ' '

/-- A string cut or filled with spaces to exactly `width` characters. -/
def fitToWidth (s : String) (width : Nat) : String := String.ofList (fitChars width s.toList)

@[simp] theorem length_fitChars (width : Nat) (cs : List Char) :
    (fitChars width cs).length = width := by
  have h : (cs.take width).length ≤ width := List.length_take_le width cs
  rw [fitChars, List.length_append, List.length_replicate]
  exact Nat.add_sub_cancel' h

end ScriptedShell.Text
