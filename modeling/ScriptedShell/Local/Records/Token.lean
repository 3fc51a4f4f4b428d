/-
# Tokens of rules

A written set of rules as a row of tokens.  Where an operand has just ended a slash divides; elsewhere
it begins a pattern.  A line feed is a token, since it ends statements.
-/
import ScriptedShell.Local.Records.Pattern
import ScriptedShell.Local.Records.Syntax
import ScriptedShell.Number.Arithmetic

namespace ScriptedShell.Local.Records

open Number

/-- A token. -/
inductive Token where
  | number (q : Quantity)
  | text (s : String)
  /-- A pattern as it is written. -/
  | pattern (s : String)
  | name (s : String)
  /-- The name of a routine. -/
  | routine (s : String)
  | function (f : Function)
  /-- A word with a meaning of its own. -/
  | word (s : String)
  | sign (s : String)
  /-- The count of the fields, which is a place like a field. -/
  | fieldCount
  | feed
  | stop
  | fault (f : RuleFault)
  deriving Repr

instance : Inhabited Token := ⟨.stop⟩

/-- A token in its place. -/
structure Lexeme where
  token : Token
  /-- How the token is shown in a complaint. -/
  shown : String
  line : Nat
  /-- The number of parentheses and of braces that are open before the token. -/
  depth : Nat
  braces : Nat
  deriving Repr, Inhabited

namespace Token

/-- The words with a meaning of their own. -/
def words : List String :=
  ["BEGIN", "END", "function", "if", "else", "while", "for", "do", "break", "continue", "next",
    "nextfile", "exit", "return", "delete", "in", "getline", "print", "printf"]

/-- The functions by their names. -/
def functions : List (String × Function) :=
  [("length", .length), ("substr", .substr), ("index", .index), ("split", .split), ("sub", .sub),
    ("gsub", .gsub), ("match", .find), ("sprintf", .sprintf), ("sin", .sin), ("cos", .cos),
    ("atan2", .atan2), ("exp", .exp), ("log", .log), ("sqrt", .sqrt), ("int", .int),
    ("rand", .rand), ("srand", .srand), ("tolower", .lower), ("toupper", .upper),
    ("system", .system), ("close", .close), ("fflush", .flush)]

/-- The name of a function. -/
def nameOf (f : Function) : String :=
  ((functions.find? fun p => p.2 = f).map (·.1)).getD ""

/-- The signs, those of more characters first. -/
def signs : List String :=
  ["||", "&&", "==", "!=", "<=", ">=", ">>", "++", "--", "+=", "-=", "*=", "/=", "%=", "^=", "!~",
    "\x7b", "\x7d", "(", ")", "[", "]", ";", ",", "+", "-", "*", "/", "%", "^", "!", ">", "<", "|",
    "?", ":", "~", "$", "="]

/-- Whether a slash after the token divides. -/
def endsOperand : Token → Bool
  | number _ | text _ | pattern _ | name _ | fieldCount => true
  | word w => w = "getline"
  | sign s => ["]", ")", "++", "--"].elem s
  | _ => false

/-- Whether line feeds after the token have no meaning. -/
def skipsFeeds : Token → Bool
  | word w => w = "do" || w = "else"
  | sign s => ["\x7b", "\x7d", "||", "&&", ",", ";"].elem s
  | feed => true
  | _ => false

/-- The text of a string with its backslashes replaced. -/
def unescaped : (fuel : Nat) → List Char → List Char
  | 0, cs => cs
  | _, [] => []
  | fuel + 1, '\\' :: cs =>
    match controlAt? cs, cs with
    | some (c, rest), _ => c :: unescaped fuel rest
    | none, '"' :: rest => '"' :: unescaped fuel rest
    | none, '\\' :: rest => '\\' :: unescaped fuel rest
    | none, '\n' :: rest => unescaped fuel rest
    | none, c :: rest => '\\' :: c :: unescaped fuel rest
    | none, [] => ['\\']
  | fuel + 1, c :: cs => c :: unescaped fuel cs

/-- The text up to a quote, and what follows it; a line feed must not come before the quote. -/
def quotedAt : List Char → Option (List Char × List Char)
  | [] => none
  | '"' :: rest => some ([], rest)
  | '\n' :: _ => none
  | '\\' :: c :: rest => (quotedAt rest).map fun (inside, rest) => ('\\' :: c :: inside, rest)
  | c :: rest => (quotedAt rest).map fun (inside, rest) => (c :: inside, rest)

/-- The text of a pattern up to its slash, and what follows it; inside brackets a slash has no
meaning. -/
def patternAt : (isInside isFirst : Bool) → List Char → Option (List Char × List Char)
  | _, _, [] => none
  | _, _, '\n' :: _ => none
  | inside, _, '\\' :: '/' :: rest =>
    (patternAt inside false rest).map fun (front, rest) => ('/' :: front, rest)
  | inside, _, '\\' :: c :: rest =>
    (patternAt inside false rest).map fun (front, rest) => ('\\' :: c :: front, rest)
  | false, _, '/' :: rest => some ([], rest)
  | false, _, '[' :: '^' :: rest =>
    (patternAt true true rest).map fun (front, rest) => ('[' :: '^' :: front, rest)
  | false, _, '[' :: rest =>
    (patternAt true true rest).map fun (front, rest) => ('[' :: front, rest)
  | true, isFirst, '[' :: ':' :: rest =>
    (patternAt true isFirst rest).map fun (front, rest) => ('[' :: ':' :: front, rest)
  | true, isFirst, ':' :: ']' :: rest =>
    (patternAt true isFirst rest).map fun (front, rest) => (':' :: ']' :: front, rest)
  | true, false, ']' :: rest =>
    (patternAt false false rest).map fun (front, rest) => (']' :: front, rest)
  | inside, _, c :: rest =>
    (patternAt inside false rest).map fun (front, rest) => (c :: front, rest)

/-- The number at the front of a text, how it is written, and what follows it. -/
def numberAt (cs : List Char) : Quantity × String × List Char :=
  match Quantity.pointAt? 10 cs with
  | none => (Quantity.zero, "", cs)
  | some (m, places, rest) =>
    let (e, rest) := Quantity.powerAt 'e' rest
    let written := String.ofList (cs.take (cs.length - rest.length))
    (Quantity.kept (Quantity.scaled false m 10 (e - places)), written, rest)

end Token

/-- What the reading of tokens goes on with. -/
structure LexState where
  line : Nat := 1
  last : Token := .feed
  depth : Nat := 0
  braces : Nat := 0
  /-- The names that stand for routines, and those that stand for variables. -/
  routines : List String := []
  names : List String := []
  /-- Whether the name that comes next is one of a routine. -/
  isRoutine : Bool := false

namespace LexState

/-- The token at the front of a text that begins with no gap, how it is shown, and what follows. -/
def tokenAt (s : LexState) (cs : List Char) : Token × String × List Char :=
  let isNameChar := fun (c : Char) => c.isAlphanum || c = '_'
  let signAt := fun (cs : List Char) =>
    match Token.signs.find? fun sign => sign.toList.isPrefixOf cs with
    | some sign => (Token.sign sign, sign, cs.drop sign.length)
    | none => (.fault (.unexpected (cs.headD '\x00')), "", cs.drop 1)
  match cs with
  | [] => (.stop, "end of file", [])
  | '"' :: rest =>
    match Token.quotedAt rest with
    | some (text, rest) =>
      (.text (String.ofList (Token.unescaped (text.length + 1) text)), String.ofList text, rest)
    | none => (.fault (.openText (String.ofList ((rest.takeWhile (· != '\n')).take 10))), "", [])
  | c :: rest =>
    if c = '/' && !s.last.endsOperand then
      match Token.patternAt false false rest with
      | some (text, rest) =>
        (.pattern (String.ofList text), "/" ++ String.ofList text ++ "/", rest)
      | none =>
        (.fault (.openPattern (String.ofList ((rest.takeWhile (· != '\n')).take 10))), "", [])
    else if c.isDigit || (c = '.' && (rest.head?.any Char.isDigit)) then
      let (q, text, rest) := Token.numberAt cs
      match q with
      | .infinite _ => (.fault (.tooLarge text), text, rest)
      | q => (.number q, text, rest)
    else if isNameChar c then
      let (name, rest) := cs.span isNameChar
      let name := String.ofList name
      if Token.words.elem name then (.word name, name, rest)
      else match Token.functions.lookup name with
        | some f => (.function f, name, rest)
        | none =>
          if name = "NF" then (.fieldCount, "$", rest)
          else if s.isRoutine || s.routines.elem name ||
              (rest.head? = some '(' && !s.names.elem name) then
            (.routine name, name, rest)
          else (.name name, name, rest)
    else signAt cs

/-- The state after a token. -/
def after (s : LexState) (t : Token) : LexState :=
  match t with
  | .routine name =>
    { s with last := t, isRoutine := false, routines := name :: s.routines }
  | .name name => { s with last := t, isRoutine := false, names := name :: s.names }
  | .word w => { s with last := t, isRoutine := w = "function" }
  | .sign "(" => { s with last := t, depth := s.depth + 1, isRoutine := false }
  | .sign ")" => { s with last := t, depth := s.depth - 1, isRoutine := false }
  | .sign "\x7b" => { s with last := t, braces := s.braces + 1, isRoutine := false }
  | .sign "\x7d" => { s with last := t, braces := s.braces - 1, isRoutine := false }
  | _ => { s with last := t, isRoutine := false }

end LexState

/-- A text without the gaps and comments at its front, and the line feeds that are skipped in
them. -/
def skipGaps (feeds : Bool) : (isComment : Bool) → List Char → Nat × List Char
  | false, '\\' :: '\n' :: rest => let (n, rest) := skipGaps feeds false rest; (n + 1, rest)
  | false, '#' :: rest => skipGaps feeds true rest
  | isComment, c :: rest =>
    if c = '\n' then
      if feeds then let (n, rest) := skipGaps feeds false rest; (n + 1, rest) else (0, c :: rest)
    else if isComment || c = ' ' || c = '\t' || c = '\r' || c = '\x0b' || c = '\x0c' then
      skipGaps feeds isComment rest
    else (0, c :: rest)
  | _, [] => (0, [])

/-- A text without what is skipped after the last token, and the line feeds in that.  After the end
of a rule one semicolon is skipped too. -/
def LexState.skip (s : LexState) (cs : List Char) : Nat × List Char :=
  match s.last with
  | .sign "\x7d" =>
    if s.braces = 0 then
      match skipGaps false false cs with
      | (n, ';' :: rest) => let (m, rest) := skipGaps true false rest; (n + m, rest)
      | _ => skipGaps true false cs
    else skipGaps true false cs
  | t => skipGaps t.skipsFeeds false cs

/-- The tokens of a text. -/
def lexemes : (fuel : Nat) → LexState → List Char → List Lexeme
  | 0, _, _ => []
  | fuel + 1, s, cs =>
    let (feeds, cs) := s.skip cs
    let s := { s with line := s.line + feeds }
    let placed := fun (t : Token) (shown : String) =>
      (⟨t, shown, s.line, s.depth, s.braces⟩ : Lexeme)
    match cs with
    | [] =>
      let stop := { placed .stop "end of file" with line := s.line + 1 }
      if s.last.skipsFeeds then [stop] else [placed .feed "end of line", stop]
    | '\n' :: rest =>
      placed .feed "end of line" ::
        lexemes fuel { s with line := s.line + 1, last := .feed } rest
    | cs =>
      let (t, shown, rest) := s.tokenAt cs
      match t with
      | .fault (.tooLarge text) =>
        let t := Token.number (.infinite false)
        placed (.fault (.tooLarge text)) shown :: placed t shown :: lexemes fuel (s.after t) rest
      | .fault f => [placed (.fault f) shown]
      | .sign ")" =>
        if s.depth = 0 then
          placed (.fault (.extra ')')) shown :: lexemes fuel { s with last := t } rest
        else placed t shown :: lexemes fuel (s.after t) rest
      | .sign "\x7d" =>
        if s.braces = 0 then
          let rest := match skipGaps false false rest with
            | (_, ';' :: rest) => rest
            | _ => rest
          placed (.fault (.extra '\x7d')) shown :: lexemes fuel { s with last := .stop } rest
        else placed t shown :: lexemes fuel (s.after t) rest
      | t =>
        let feedsInside := (cs.take (cs.length - rest.length)).count '\n'
        placed t shown :: lexemes fuel { s.after t with line := s.line + feedsInside } rest

end ScriptedShell.Local.Records
