/-
# Texts of scripts

The text of a script while it is read: what is left of it, the number of the line, the token that
was read last, and the texts for input that follow the line of a command.  A backslash at the end of
a line joins it to the next one.
-/
import ScriptedShell.Local.Script.Syntax

namespace ScriptedShell.Local.Script

/-! ## Characters -/

/-- Whether a character sets words apart. -/
def isGap (c : Char) : Bool := c = ' ' || c = '\t'

/-- The mark around scripts whose output is meant. -/
def backquote : Char := Char.ofNat 96

/-- Whether a character ends a word that is not quoted. -/
def endsWord (c : Char) : Bool :=
  isGap c || c = '\n' || c = ';' || c = '&' || c = '|' || c = '(' || c = ')' || c = '<' || c = '>'

/-- Whether a character can begin a name. -/
def isNameStart (c : Char) : Bool := c.isAlpha || c = '_'

/-- Whether a character can go on in a name. -/
def isNameChar (c : Char) : Bool := c.isAlphanum || c = '_'

/-- Whether a text is a name. -/
def isName : List Char → Bool
  | [] => false
  | c :: cs => isNameStart c && cs.all isNameChar

/-- Whether a character that is no letter names a parameter by itself. -/
def isSpecialParameter (c : Char) : Bool :=
  c.isDigit || c = '?' || c = '$' || c = '#' || c = '@' || c = '*' || c = '!' || c = '-'

/-! ## Tokens -/

/-- A token of a script. -/
inductive Token where
  | word (pieces : Word) (isQuoted : Bool)
  /-- A word that is not quoted and has a meaning of its own. -/
  | reserved (text : String)
  | operator (symbol : String)
  /-- A change of the stream with a number, or of the usual one. -/
  | redirect (stream : Option Nat) (symbol : String)
  | lineEnd
  | textEnd

/-- The words with a meaning of their own. -/
def reservedWords : List String :=
  ["!", "case", "do", "done", "elif", "else", "esac", "fi", "for", "if", "in", "then", "until",
    "while", "\x7b", "\x7d"]

/-- The words with a meaning of their own in a language. -/
def reservedIn : Dialect → List String
  | .standard => reservedWords
  | .extended => ["[[", "function", "select", "time"] ++ reservedWords

/-- The reserved words that end a list of commands. -/
def closingWords : List String :=
  ["do", "done", "elif", "else", "esac", "fi", "then", "\x7d"]

/-- A text between double quotes. -/
def quotedSymbol (symbol : String) : String := "\"" ++ symbol ++ "\""

namespace Token

/-- How a token is named in messages. -/
def symbol : Token → String
  | word _ _ => "word"
  | reserved text => quotedSymbol text
  | operator s => quotedSymbol s
  | redirect _ _ => "redirection"
  | lineEnd => "newline"
  | textEnd => "end of file"

/-- Whether a token ends a list of commands. -/
def endsList : Token → Bool
  | textEnd => true
  | operator s => s = ")" || s = ";;" || s = ";&" || s = ";;&"
  | reserved text => closingWords.elem text
  | _ => false

/-- Whether a token is an operator. -/
def isOperator (s : String) : Token → Bool
  | operator t => s = t
  | _ => false

/-- Whether a token is a reserved word. -/
def isReserved (s : String) : Token → Bool
  | reserved t => s = t
  | _ => false

end Token

/-- The text of a word in which nothing is quoted or stands for anything else. -/
def plainText? (pieces : Word) : Option String :=
  (pieces.mapM fun (piece : Piece) => match piece with
    | .char c false => some c
    | _ => none).map String.ofList

/-- The text of a word as it stands between its quotes; `none` if something in it stands for
anything else. -/
def literalText? (pieces : Word) : Option String :=
  (pieces.mapM fun (piece : Piece) => match piece with
    | .char c _ => some [c]
    | .mark _ => some []
    | _ => none).map fun (cs : List (List Char)) => String.ofList cs.flatten

/-! ## What is being read -/

/-- A text for input that has been announced: its number, the line that ends it, whether tabs at the
front of its lines are left out, and whether things in it stand for others. -/
structure Announced where
  number : Nat
  ending : String
  dropsTabs : Bool
  expands : Bool
  /-- The line of the command. -/
  line : Nat

/-- A text of a script while it is read. -/
structure Reading where
  rest : List Char
  dialect : Dialect := .standard
  /-- The whole text. -/
  source : List Char := []
  line : Nat := 1
  /-- The token that was read last, and whether it is to be read again. -/
  last : Token := .lineEnd
  isPushed : Bool := false
  /-- How much was left when the last token began, and its line. -/
  before : Nat := 0
  tokenLine : Nat := 1
  aliases : List (String × String) := []
  /-- The aliases whose texts are being read, with what is left after each of them. -/
  replaced : List (String × Nat) := []
  announced : List Announced := []
  documents : List (Nat × Word) := []
  nextDocument : Nat := 0
  /-- The texts for input that the end of the whole text has ended: their ending lines, and the lines
  that announced them. -/
  endless : List (String × Nat) := []

/-- What reads a script. -/
abbrev Reader := ExceptT SyntaxFault (StateM Reading)

namespace Reader

/-- Whether the script is in the extended language. -/
def isExtended : Reader Bool := return (← get).dialect = .extended

/-- The text of the last token. -/
def lastText : Reader String := do
  let r ← get
  match r.last with
  | .lineEnd => return "newline"
  | _ =>
    return String.ofList
      ((r.source.drop (r.source.length - r.before)).take (r.before - r.rest.length))

/-- Say that the last token must not stand here. -/
def unexpected (expected : Option String) : Reader α := do
  let r ← get
  match r.dialect, r.last with
  | .standard, last => throw (.unexpected last.symbol expected)
  | .extended, .textEnd => throw .early
  | .extended, _ => throw (.unexpected (← lastText) none)

/-- Say that something is not closed: the fault that the standard language has for it, or the mark
that would close what began in a line. -/
def unclosed (fault : SyntaxFault) (closing : String) (line : Nat) : Reader α := do
  if ← isExtended then throw (.unclosed closing line) else throw fault

/-- Read the last token again. -/
def pushBack : Reader Unit := modify fun r => { r with isPushed := true }

/-- What is left of the text. -/
def rest : Reader (List Char) := return (← get).rest

/-- Go on with a text. -/
def goOn (cs : List Char) : Reader Unit := modify fun r => { r with rest := cs }

/-- Go on with a text on the next line. -/
def goOnBelow (cs : List Char) : Reader Unit :=
  modify fun r => { r with rest := cs, line := r.line + 1 }

/-- A text without backslashes at ends of lines at its front, and the number of lines passed. -/
def joinLines : Nat → List Char → Nat × List Char
  | passed, '\\' :: '\n' :: cs => joinLines (passed + 1) cs
  | passed, cs => (passed, cs)

/-- What is left of the text after joined lines. -/
def joined : Reader (List Char) := do
  match joinLines 0 (← rest) with
  | (0, cs) => return cs
  | (n, cs) =>
    modify fun r => { r with rest := cs, line := r.line + n }
    return cs

/-- Read a character after joined lines. -/
def next? : Reader (Option Char) := do
  match ← joined with
  | [] => return none
  | c :: cs =>
    if c = '\n' then goOnBelow cs else goOn cs
    return some c

/-- Read a character that may be there. -/
def accept (c : Char) : Reader Bool := do
  match ← joined with
  | d :: cs => if c = d then goOn cs; return true else return false
  | [] => return false

/-- The characters that satisfy `p` at the front of a text. -/
def takeChars (p : Char → Bool) : Nat → List Char → Reader (List Char)
  | 0, done => return done.reverse
  | fuel + 1, done => do
    match ← joined with
    | c :: cs => if p c then goOn cs; takeChars p fuel (c :: done) else return done.reverse
    | [] => return done.reverse

/-! ## Texts for input -/

/-- A line without the tabs at its front. -/
def dropTabs (line : List Char) : List Char := line.dropWhile (· = '\t')

/-- Whether a line goes on on the next one: a backslash at its end is not escaped itself. -/
def isContinued (line : List Char) : Bool := (line.reverse.takeWhile (· = '\\')).length % 2 = 1

/-- The line at the front of a text, with the lines that it goes on on, and the text after its line
feed, if it has one. -/
def cutLine (joins : Bool) : Nat → List Char → List Char × Option (List Char)
  | 0, cs => (cs, none)
  | fuel + 1, cs =>
    match cs.span (· != '\n') with
    | (line, []) => (line, none)
    | (line, _ :: after) =>
      if joins && isContinued line then
        let (more, after) := cutLine joins fuel after
        (line ++ '\n' :: more, after)
      else (line, some after)

/-- The lines up to an ending line, and the text after it, if there is such a line. -/
def cutDocument (a : Announced) : Nat → List (List Char) → List Char →
    List Char × Option (List Char)
  | 0, done, cs => (done.reverse.flatten, some cs)
  | fuel + 1, done, cs =>
    let (line, after) := cutLine a.expands cs.length cs
    let line := if a.dropsTabs then dropTabs line else line
    if line = a.ending.toList then (done.reverse.flatten, some (after.getD []))
    else match after with
      | none => ((line :: done).reverse.flatten, none)
      | some after => cutDocument a fuel ((line ++ ['\n']) :: done) after

/-- The text up to an ending line. -/
def readDocument (a : Announced) : Reader (List Char) := do
  let cs ← rest
  let (text, found) := cutDocument a (cs.length + 1) [] cs
  let after := found.getD []
  if found.isNone then
    modify fun (r : Reading) =>
      { r with endless := r.endless ++ [(a.ending, a.line)] }
  let passed := (cs.take (cs.length - after.length)).count '\n'
  modify fun (r : Reading) => { r with rest := after, line := r.line + passed }
  return text

/-- Announce a text for input, and give its number. -/
def announce (ending : String) (dropsTabs expands : Bool) : Reader Nat := do
  let r ← get
  let a : Announced := ⟨r.nextDocument, ending, dropsTabs, expands, r.line⟩
  set { r with nextDocument := a.number + 1, announced := r.announced ++ [a] }
  return a.number

/-- Keep the text for input with a number. -/
def keepDocument (number : Nat) (word : Word) : Reader Unit :=
  modify fun r => { r with documents := (number, word) :: r.documents }

end Reader

end ScriptedShell.Local.Script
