/-
# Printed texts

The escapes that the shell's own commands resolve in the texts they print, and the format language of
`printf`.  What is printed is a text of bytes, since an escape can name any byte.
-/
import ScriptedShell.Local.Script.Arithmetic
import ScriptedShell.Local.Script.Syntax
import ScriptedShell.Number.Directive
import ScriptedShell.Text.Octets

namespace ScriptedShell.Local.Script

open Number

/-! ## Escapes -/

/-- Whether a character is an octal digit. -/
def isOctal (c : Char) : Bool := '0' ≤ c && c ≤ '7'

/-- The byte that octal digits stand for. -/
def octalByte (digits : List Char) : Char :=
  Char.ofNat ((digits.foldl (fun n c => 8 * n + (c.toNat - '0'.toNat)) 0) % 256)

/-- The byte that an escape of one letter stands for. -/
def letterByte? : Char → Option Char
  | 'a' => some '\x07'
  | 'b' => some '\x08'
  | 'f' => some '\x0c'
  | 'n' => some '\n'
  | 'r' => some '\r'
  | 't' => some '\t'
  | 'v' => some '\x0b'
  | '\\' => some '\\'
  | _ => none

/-- The byte that an escape stands for, and the text after it; what follows the backslash is
given.  A backslash that begins no escape stands for itself. -/
def escapeAt (cs : List Char) : Char × List Char :=
  match cs with
  | [] => ('\\', [])
  | c :: rest =>
    if isOctal c then
      let digits := (cs.take 3).takeWhile isOctal
      (octalByte digits, cs.drop digits.length)
    else match letterByte? c with
      | some b => (b, rest)
      | none => ('\\', cs)

/-- A text whose escapes are resolved, put after what has been made so far, and whether all output
ends with it.  Here a zero before octal digits is not one of them. -/
def resolveEscapes : Nat → (done : List Char) → List Char → List Char × Bool
  | 0, done, _ => (done.reverse, false)
  | _ + 1, done, [] => (done.reverse, false)
  | _ + 1, done, '\\' :: 'c' :: _ => (done.reverse, true)
  | fuel + 1, done, '\\' :: '0' :: cs =>
    let digits := (cs.take 3).takeWhile isOctal
    resolveEscapes fuel (octalByte digits :: done) (cs.drop digits.length)
  | fuel + 1, done, '\\' :: cs =>
    let (b, rest) := escapeAt cs
    resolveEscapes fuel (b :: done) rest
  | fuel + 1, done, c :: cs => resolveEscapes fuel (c :: done) cs

/-- A text whose escapes are resolved, and whether all output ends with it. -/
def resolved (text : String) : List Char × Bool :=
  resolveEscapes (text.length + 1) [] text.toList

/-- What `echo` prints for its arguments. -/
def echoText : List String → List Char
  | "-n" :: arguments => words arguments []
  | arguments => words arguments ['\n']
where
  /-- The texts of words, set apart by blanks, and an end. -/
  words : List String → (ending : List Char) → List Char
    | [], ending => ending
    | word :: rest, ending =>
      let (text, stops) := resolved word
      if stops then text
      else text ++ (if rest.isEmpty then ending else ' ' :: words rest ending)

/-! ## Escapes in quotes -/

/-- The number that digits write in a base, at most some of them, and what follows them. -/
def escapeNumber (base most : Nat) (cs : List Char) : Option (Nat × List Char) :=
  let digits := (cs.take most).takeWhile fun c => (Arithmetic.digitOf? base c).isSome
  if digits.isEmpty then none
  else some ((Arithmetic.digitsAt base 0 digits).1, cs.drop digits.length)

/-- The characters that an escape stands for, and the text after it; what follows the backslash is
given. -/
def escapedAt (cs : List Char) : List Char × List Char :=
  match cs with
  | [] => (['\\'], [])
  | c :: rest =>
    let named := fun (width n : Nat) =>
      let digits := (Nat.toDigits 16 n).map Char.toUpper
      if n < 128 then [Char.ofNat n]
      else '\\' :: (if width = 4 then 'u' else 'U') ::
        List.replicate (width - digits.length) '0' ++ digits
    if isOctal c then
      match escapeNumber 8 3 cs with
      | some (n, rest) => ([Char.ofNat (n % 256)], rest)
      | none => ([c], rest)
    else if c = 'x' then
      match escapeNumber 16 2 rest with
      | some (n, rest) => ([Char.ofNat n], rest)
      | none => (['\\', 'x'], rest)
    else if c = 'u' || c = 'U' then
      match escapeNumber 16 (if c = 'u' then 4 else 8) rest with
      | some (n, rest) => (named (if n < Nat.pow 2 16 then 4 else 8) n, rest)
      | none => (['\\', c], rest)
    else if c = 'c' then
      match rest with
      | d :: rest => ([Char.ofNat (d.toUpper.toNat % 32)], rest)
      | [] => (['\\', 'c'], [])
    else if c = 'e' || c = 'E' then (['\x1b'], rest)
    else if c = '\'' || c = '"' || c = '?' then ([c], rest)
    else match letterByte? c with
      | some b => ([b], rest)
      | none => (['\\', c], rest)

/-- The text in quotes with escapes up to the closing quote, and what follows it. -/
def escapedText : Nat → (done : List Char) → List Char → Option (List Char × List Char)
  | 0, _, _ | _ + 1, _, [] => none
  | _ + 1, done, '\'' :: cs => some (done.reverse, cs)
  | fuel + 1, done, '\\' :: cs =>
    let (text, rest) := escapedAt cs
    escapedText fuel (text.reverse ++ done) rest
  | fuel + 1, done, c :: cs => escapedText fuel (c :: done) cs

/-- A text whose escapes of the extended language are resolved, put after what has been made so far,
and whether all output ends with it; `anyOctal` says whether octal digits need no zero before
them. -/
def resolveMore (anyOctal : Bool) : Nat → (done : List Char) → List Char → List Char × Bool
  | 0, done, _ => (done.reverse, false)
  | _ + 1, done, [] => (done.reverse, false)
  | _ + 1, done, '\\' :: 'c' :: _ => (done.reverse, true)
  | fuel + 1, done, '\\' :: '0' :: cs =>
    let digits := (cs.take 3).takeWhile isOctal
    resolveMore anyOctal fuel (octalByte digits :: done) (cs.drop digits.length)
  | fuel + 1, done, '\\' :: c :: cs =>
    if (isOctal c && !anyOctal) || c = '\'' || c = '"' || c = '?' then
      resolveMore anyOctal fuel (c :: '\\' :: done) cs
    else
      let (text, rest) := escapedAt (c :: cs)
      resolveMore anyOctal fuel (text.reverse ++ done) rest
  | fuel + 1, done, c :: cs => resolveMore anyOctal fuel (c :: done) cs

/-! ## Quotes -/

/-- Whether a character is not printed as it is. -/
def isControl (c : Char) : Bool := c.toNat < 32 || 127 ≤ c.toNat

/-- The escape of a character in quotes with escapes. -/
def escapeOf (c : Char) : List Char :=
  let octal := Nat.toDigits 8 c.toNat
  match c with
  | '\x1b' => ['\\', 'E']
  | '\x07' => ['\\', 'a']
  | '\x08' => ['\\', 'b']
  | '\x0c' => ['\\', 'f']
  | '\n' => ['\\', 'n']
  | '\r' => ['\\', 'r']
  | '\t' => ['\\', 't']
  | '\x0b' => ['\\', 'v']
  | '\\' => ['\\', '\\']
  | '\'' => ['\\', '\'']
  | c =>
    if isControl c then '\\' :: List.replicate (3 - octal.length) '0' ++ octal else [c]

/-- A text in quotes with escapes. -/
def escapedQuotes (text : List Char) : List Char :=
  '$' :: '\'' :: text.flatMap escapeOf ++ ['\'']

/-- A text in single quotes, with a backslash before each quote in it. -/
def singleQuotes (text : List Char) : List Char :=
  '\'' :: text.flatMap (fun c => if c = '\'' then "'\\''".toList else [c]) ++ ['\'']

/-- A text in quotes that a shell reads back. -/
def inQuotes (text : List Char) : List Char :=
  if text.any isControl then escapedQuotes text else singleQuotes text

/-- The characters that mean something to a shell. -/
def hasMeaning (c : Char) : Bool :=
  " \t\n!\"#$&'()*,;<>?[\\]^`\x7b|\x7d~".toList.elem c

/-- A text with backslashes before the characters that mean something, which a shell reads back. -/
def backslashed (text : List Char) : List Char :=
  if text.isEmpty then ['\'', '\'']
  else if text.any isControl then escapedQuotes text
  else
    let mark := fun (isFirst : Bool) (c : Char) =>
      if (c = '~' || c = '#') && !isFirst then [c]
      else if hasMeaning c then ['\\', c] else [c]
    match text with
    | [] => []
    | c :: cs => mark true c ++ cs.flatMap (mark false)

/-- A text in double quotes, with a backslash before what means something there. -/
def doubleQuotes (text : List Char) : List Char :=
  if text.any isControl then escapedQuotes text
  else
    '"' :: text.flatMap (fun c => if "\"$\\`".toList.elem c then ['\\', c] else [c]) ++ ['"']

/-- A text in quotes only if something in it means something. -/
def quotedIfNeeded (text : List Char) : List Char :=
  if text.isEmpty then []
  else if text.any isControl then escapedQuotes text
  else if text.any hasMeaning then singleQuotes text
  else text

/-! ## Formats -/

/-- What is wrong with the number in an argument. -/
inductive Objection where
  | noNumber
  | notWhole
  | outOfRange
  deriving Repr, DecidableEq

/-- The wording of an objection to an argument. -/
def Objection.text (dialect : Dialect) (argument : String) : Objection → String
  | outOfRange =>
    (if dialect = .extended then "warning: " else "") ++ argument ++
      ": Numerical result out of range"
  | objection =>
    argument ++ match dialect, objection with
      | .extended, _ => ": invalid number"
      | .standard, noNumber => ": expected numeric value"
      | .standard, _ => ": not completely converted"

/-- Why printing with a format ends early. -/
inductive FormatFault where
  | badDirective (whole : String)
  | unfinished (whole : String)
  deriving Repr, DecidableEq

/-- The wording of a fault of a format. -/
def FormatFault.text : Dialect → FormatFault → String
  | .standard, badDirective whole => whole ++ ": invalid directive"
  | .standard, unfinished _ => "missing format character"
  | .extended, badDirective whole =>
    "`" ++ String.ofList (whole.toList.reverse.take 1) ++ "': invalid format character"
  | .extended, unfinished whole => "`" ++ whole ++ "': missing format character"

/-- What has been printed by a format so far, and the arguments that are left. -/
structure Printing where
  arguments : List String
  dialect : Dialect := .standard
  /-- The text, the last byte first. -/
  text : List Char := []
  objections : List (String × Objection) := []
  /-- Why printing has ended early. -/
  fault : Option FormatFault := none
  isStopped : Bool := false
  isFailed : Bool := false

namespace Printing

/-- Add text. -/
def add (p : Printing) (cs : List Char) : Printing := { p with text := cs.reverse ++ p.text }

/-- Object to an argument. -/
def object (p : Printing) (argument : String) (objection : Objection) : Printing :=
  { p with
    objections := p.objections ++ [(argument, objection)]
    isFailed := p.isFailed || p.dialect = .standard || objection != .outOfRange }

/-- The characters that an escape in the format stands for, and the text after it. -/
def escape (p : Printing) (cs : List Char) : List Char × List Char :=
  match p.dialect with
  | .standard =>
    let (b, rest) := escapeAt cs
    ([b], rest)
  | .extended => escapedAt cs

/-- An argument whose escapes are resolved, and whether all output ends with it. -/
def resolve (p : Printing) (text : String) : List Char × Bool :=
  match p.dialect with
  | .standard => resolved text
  | .extended => resolveMore true (text.length + 1) [] text.toList

/-- Take the next argument, which is empty when there is none. -/
def next (p : Printing) : Option String × Printing :=
  match p.arguments with
  | [] => (none, p)
  | a :: rest => (some a, { p with arguments := rest })

/-- Complain about what follows a number in an argument. -/
def check (p : Printing) (argument : String) (isNumber : Bool) (rest : List Char)
    (inRange : Bool) : Printing :=
  if !rest.isEmpty then p.object argument (if isNumber then .notWhole else .noNumber)
  else if !inRange then p.object argument .outOfRange
  else p

/-- The code of the character after a quote. -/
def quotedCode? (argument : String) : Option Nat :=
  match argument.toList with
  | q :: cs => if q = '\'' || q = '"' then some ((cs.head?.map Char.toNat).getD 0) else none
  | [] => none

/-- Take the next argument as a whole number. -/
def integer (p : Printing) (isSigned : Bool) : Int × Printing :=
  match p.next with
  | (none, p) => (0, p)
  | (some a, p) =>
    match quotedCode? a with
    | some n => (n, p)
    | none =>
      match Arithmetic.signedAt? Arithmetic.numeralAt a.toList with
      | none => (0, p.check a false a.toList true)
      | some (n, rest) =>
        let low : Int := if isSigned then Arithmetic.smallest else -(Nat.pow 2 64 - 1)
        let high : Int := if isSigned then Arithmetic.largest else Nat.pow 2 64 - 1
        let bounded := if !isSigned && n < low then high else max low (min high n)
        (bounded, p.check a true rest (bounded = n))

/-- Take the next argument as a number with a fraction. -/
def quantity (p : Printing) : Quantity × Printing :=
  match p.next with
  | (none, p) => (default, p)
  | (some a, p) =>
    match quotedCode? a with
    | some n => (.ofInt n, p)
    | none =>
      match Quantity.readAt? a.toList with
      | none => (default, p.check a false a.toList true)
      | some (q, rest) => (q.rounded double, p.check a true rest true)

/-- Read a width or a precision, which can be an argument. -/
def amount (p : Printing) (cs : List Char) : Option Int × List Char × Printing :=
  match cs with
  | '*' :: cs => let (n, p) := p.integer true; (some n, cs, p)
  | cs =>
    let (digits, rest) := cs.span Char.isDigit
    (if digits.isEmpty then none else some (Text.digitsValue digits), rest, p)

/-- Print what a directive makes of the next argument. -/
def apply (p : Printing) (d : Directive) (whole : List Char) : Printing :=
  let c := d.letter
  if c = 's' then
    let (a, p) := p.next
    p.add (d.textOf (a.getD "").toList)
  else if c = 'b' then
    let (a, p) := p.next
    let (text, stops) := p.resolve (a.getD "")
    { p.add (d.textOf text) with isStopped := stops }
  else if c = 'c' then
    let (a, p) := p.next
    p.add (d.fill [((a.getD "").toList.head?).getD '\x00'])
  else if c = 'd' || c = 'i' then
    let (n, p) := p.integer true
    p.add (d.integerText n)
  else if c = 'o' || c = 'u' || c = 'x' || c = 'X' then
    let (n, p) := p.integer false
    p.add (d.integerText n)
  else if "aAeEfFgG".toList.elem c then
    let (q, p) := p.quantity
    p.add (d.quantityText q)
  else if c = 'q' && p.dialect = .extended then
    let (a, p) := p.next
    p.add (d.textOf (backslashed (a.getD "").toList))
  else { p with fault := some (.badDirective (String.ofList whole)) }

/-- Print what a format makes of arguments, once. -/
def once : Nat → List Char → Printing → Printing
  | 0, _, p => p
  | _ + 1, [], p => p
  | fuel + 1, '\\' :: cs, p =>
    let (text, rest) := p.escape cs
    once fuel rest (p.add text)
  | fuel + 1, '%' :: '%' :: cs, p => once fuel cs (p.add ['%'])
  | fuel + 1, '%' :: cs, p =>
    let isFlag := fun (c : Char) => "#-+ 0".toList.elem c
    let d := (cs.takeWhile isFlag).foldl Directive.withFlag { letter := 's' }
    let (width, rest, p) := p.amount (cs.dropWhile isFlag)
    let d := match width with
      | some n => d.withWidth n
      | none => d
    let (d, rest, p) := match rest with
      | '.' :: rest =>
        let (n, rest, p) := p.amount rest
        (d.withPrecision (n.getD 0), rest, p)
      | rest => (d, rest, p)
    let rest := if p.dialect = .standard then rest
      else rest.dropWhile fun c => "hjlLtz".toList.elem c
    match rest with
    | [] => { p with fault := some (.unfinished (String.ofList ('%' :: cs))) }
    | letter :: rest =>
      let p := p.apply { d with letter } ('%' :: cs.take (cs.length - rest.length))
      if p.fault.isSome || p.isStopped then p else once fuel rest p
  | fuel + 1, c :: cs, p => once fuel cs (p.add [c])

/-- Print what a format makes of arguments, again and again while there are arguments left that it
takes. -/
def all (cs : List Char) : Nat → Printing → Printing
  | 0, p => p
  | fuel + 1, p =>
    let before := p.arguments.length
    let p := once (cs.length + 1) cs p
    if p.fault.isSome || p.isStopped || p.arguments.isEmpty || p.arguments.length = before then p
    else all cs fuel p

end Printing

/-- What `printf` prints for a format and its arguments. -/
def printfText (dialect : Dialect) (format : String) (arguments : List String) : Printing :=
  Printing.all format.toList (arguments.length + 1) { arguments, dialect }

end ScriptedShell.Local.Script
