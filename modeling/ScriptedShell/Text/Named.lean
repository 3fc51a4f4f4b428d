/-
# Named texts

How the name of a file is shown in a message: in quotes that a shell reads back, so that a name with
gaps or control characters can be told from the text around it.  Names are texts of bytes.
-/

namespace ScriptedShell.Text.Named

/-- The letter that stands for a control character after a backslash. -/
def letterOf? : Char → Option Char
  | '\x07' => some 'a'
  | '\x08' => some 'b'
  | '\t' => some 't'
  | '\n' => some 'n'
  | '\x0b' => some 'v'
  | '\x0c' => some 'f'
  | '\r' => some 'r'
  | _ => none

/-- Whether a byte is shown as it is. -/
def isShown (c : Char) : Bool := 32 ≤ c.toNat && c.toNat < 127

/-- Whether a character has no meaning of its own to a shell. -/
def isInnocent (c : Char) : Bool :=
  c.isAlphanum || "%+,-./:]_@".toList.elem c

/-- Whether a character at a place in a name of some length has to be quoted. -/
def isSpecial (size i : Nat) (c : Char) : Bool :=
  !isShown c || " !\"$&()*;<=>[^|?\\'".toList.elem c || c.toNat = 96 ||
    ((c = '#' || c = '~') && i = 0) || ((c = '\x7b' || c = '\x7d') && size = 1)

/-- Three digits in base eight. -/
def octal (n : Nat) : List Char :=
  let ds := Nat.toDigits 8 n
  List.replicate (3 - ds.length) '0' ++ ds

/-- A name between single quotes, where `isEscaping` says whether control characters have just been
written. -/
def inSingle (isEscaping : Bool) : List Char → List Char
  | [] => ['\'']
  | c :: cs =>
    if isShown c then
      let front := if isEscaping then ['\'', '\''] else []
      if c = '\'' then
        (if isEscaping then ['\''] else ['\'']) ++ ['\\', '\'', '\''] ++ inSingle false cs
      else front ++ c :: inSingle false cs
    else
      let front := if isEscaping then [] else ['\'', '$', '\'']
      let text := match letterOf? c with
        | some l => ['\\', l]
        | none => '\\' :: octal c.toNat
      front ++ text ++ inSingle true cs

/-- A name in quotes. -/
def quoted (name : String) : String :=
  let cs := name.toList
  let fitsDouble := fun (c : Char) => isInnocent c || c = '\'' || c = ' ' ||
    ((c = '\x7b' || c = '\x7d') && 1 < cs.length)
  if cs.elem '\'' && cs.all fitsDouble then "\"" ++ name ++ "\""
  else String.ofList ('\'' :: inSingle false cs)

/-- A name between single quotes, with backslashes before what cannot stand there by itself. -/
def escaped (name : String) : String :=
  let written := fun (c : Char) =>
    match letterOf? c with
    | some l => ['\\', l]
    | none =>
      if c = '\'' || c = '\\' then ['\\', c]
      else if isShown c then [c]
      else '\\' :: octal c.toNat
  String.ofList ('\'' :: name.toList.flatMap written ++ ['\''])

/-- A name as it stands, or in quotes if it needs them. -/
def shown (name : String) : String :=
  let cs := name.toList
  if cs.isEmpty || (cs.zipIdx.any fun (c, i) => isSpecial cs.length i c) then quoted name else name

end ScriptedShell.Text.Named
