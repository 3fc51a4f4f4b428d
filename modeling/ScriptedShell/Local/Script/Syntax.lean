/-
# Shell scripts

What a script of the local shell means to the shell: words made of pieces, some of them quoted,
and commands made of words.  All texts are texts of bytes.
-/

namespace ScriptedShell.Local.Script

/-- The languages of scripts. -/
inductive Dialect where
  /-- The language that all shells know. -/
  | standard
  /-- The language with arrays, braces, questions in double brackets and commands that compute. -/
  | extended
  deriving Repr, DecidableEq

/-- What is made of the value of a parameter.  What holds of a parameter without a value can also
hold of one with an empty value. -/
inductive Use where
  | value
  | length
  /-- A word stands for a missing value. -/
  | orElse (orEmpty : Bool)
  /-- A word becomes the value when it is missing. -/
  | assigned (orEmpty : Bool)
  /-- A word stands for a value that is not missing. -/
  | instead (orEmpty : Bool)
  /-- A word says what is wrong when the value is missing. -/
  | demanded (orEmpty : Bool)
  /-- A pattern at one end of the value is cut off. -/
  | trimmed (atEnd longest : Bool)
  /-- Nothing can be made of it. -/
  | meaningless
  deriving Repr, DecidableEq

/-- What else the extended language makes of a parameter, or of the items of one; the words that it
needs stand beside it. -/
inductive Refinement where
  | usual (use : Use)
  /-- The stretch of the value from one number on, as long as another one says. -/
  | stretch
  /-- The first stretch that a pattern stands for, or each one, is replaced by a word; it can be
  held to the front or the end of the value. -/
  | replaced (isAll : Bool) (atEnd : Option Bool)
  /-- The first letter, or each one, is made large or small, if a pattern stands for it. -/
  | recased (isUpper isAll : Bool)
  /-- A letter says what is made of the value. -/
  | transformed (letter : Char)
  /-- The value is the name of the parameter that is meant. -/
  | indirect (use : Use)
  /-- The keys of the items. -/
  | keys
  /-- The names of variables that begin with the name. -/
  | names
  /-- Nothing can be made of it; this is its text. -/
  | meaningless (text : String)
  deriving Repr, DecidableEq

/-- What follows the body of a branch that has been chosen. -/
inductive BranchEnd where
  | done
  /-- The body of the next branch. -/
  | through
  /-- The next branch whose patterns stand for the text. -/
  | onward
  deriving Repr, DecidableEq

/-- What is done with a stream. -/
inductive Redirect where
  | read
  | write
  /-- Write even where files are protected. -/
  | overwrite
  | append
  | both
  deriving Repr, DecidableEq

mutual

/-- A piece of a word. -/
inductive Piece where
  | char (c : Char) (quoted : Bool)
  /-- A quote, which makes a word even of nothing. -/
  | mark (quote : Char)
  | parameter (name : String) (use : Use) (word : List Piece) (quoted : Bool)
  /-- The output of a script. -/
  | output (script : Command) (quoted : Bool)
  /-- The value of an arithmetic expression. -/
  | number (expression : List Piece) (quoted : Bool)
  /-- What the extended language makes of a parameter, or of the item that an index names. -/
  | refined (name : String) (index : Option (List Piece)) (refinement : Refinement)
    (words : List (List Piece)) (quoted : Bool)
  /-- The values of an array, where it is assigned. -/
  | items (values : List (List Piece))
  /-- A path where the output of a script is read, or its input written. -/
  | channel (script : Command) (isInput : Bool)

/-- A change of one stream. -/
inductive Redirection where
  | file (kind : Redirect) (stream : Nat) (target : List Piece)
  /-- The stream is the one that the target names, or is closed. -/
  | copy (stream : Nat) (target : List Piece)
  /-- The input is the text that follows the line of the command; it has a number. -/
  | document (stream number : Nat) (expands : Bool)
  /-- The input is a word. -/
  | text (stream : Nat) (word : List Piece)
  /-- The output and the errors go to a file. -/
  | all (kind : Redirect) (target : List Piece)

/-- Patterns, and what is done for a text that one of them stands for. -/
inductive Branch where
  | mk (patterns : List (List Piece)) (body : Command) (ending : BranchEnd)

/-- A question in double brackets. -/
inductive Question where
  | unary (operator : String) (word : List Piece)
  | binary (operator : String) (first second : List Piece)
  | negated (question : Question)
  | both (first second : Question)
  | either (first second : Question)

/-- A command, with the number of its line where that can be told. -/
inductive Command where
  | nothing
  | simple (line : Nat) (assignments words : List (List Piece)) (redirections : List Redirection)
  /-- The output of each is the input of the next. -/
  | piped (commands : List Command)
  | negated (command : Command)
  | sequence (first second : Command)
  /-- The second runs if the first succeeds. -/
  | both (first second : Command)
  /-- The second runs if the first fails. -/
  | either (first second : Command)
  /-- The script goes on before the command has ended. -/
  | background (line : Nat) (command : Command)
  /-- What happens to variables and the directory stays inside. -/
  | subshell (line : Nat) (body : Command) (redirections : List Redirection)
  | redirected (line : Nat) (body : Command) (redirections : List Redirection)
  | choose (test yes no : Command)
  /-- The body runs again while the test succeeds, or until it does. -/
  | loop (isUntil : Bool) (test body : Command)
  /-- The body runs once for each word. -/
  | each (line : Nat) (name : String) (words : List (List Piece)) (body : Command)
  | select (line : Nat) (subject : List Piece) (branches : List Branch)
  | define (line : Nat) (name : String) (body : Command)
  | question (line : Nat) (question : Question)
  /-- The command succeeds if the value of the expression is not zero. -/
  | compute (line : Nat) (expression : List Piece)
  /-- The body runs while an expression is not zero; one expression comes before the first round and
  one after each. -/
  | count (line : Nat) (first test next : List Piece) (body : Command)
  /-- The time that the command takes is told. -/
  | timed (isPlain : Bool) (command : Command)
  /-- The body runs for each word that is chosen by its number. -/
  | menu (line : Nat) (name : String) (words : List (List Piece)) (body : Command)

end

instance : Inhabited Command := ⟨.nothing⟩

/-- A word. -/
abbrev Word := List Piece

/-- A word that nothing in it stands for anything else. -/
def plainWord (text : String) : Word := text.toList.map fun c => .char c false

/-- What is wrong with the text of a script. -/
inductive SyntaxFault where
  | openQuote
  | openBackquote
  | openBrace
  | openNumber
  | badLoopVariable
  | badFunctionName
  | badStream
  /-- Something stands where it cannot. -/
  | unexpected (symbol : String) (expected : Option String)
  /-- Something is not closed at the end of the text: it began in a line. -/
  | unclosed (symbol : String) (line : Nat)
  /-- A question in double brackets is not closed. -/
  | openQuestion (line : Nat)
  | early
  /-- A question in double brackets goes wrong. -/
  | badQuestion (lead : Option String) (symbol : String)
  deriving Repr, DecidableEq

/-- The wording of a fault in the standard language. -/
def SyntaxFault.message : SyntaxFault → String
  | openQuote => "Syntax error: Unterminated quoted string"
  | openBackquote => "Syntax error: EOF in backquote substitution"
  | openBrace => "Syntax error: Missing '\x7d'"
  | openNumber => "Syntax error: Missing '))'"
  | badLoopVariable => "Syntax error: Bad for loop variable"
  | badFunctionName => "Syntax error: Bad function name"
  | badStream => "Syntax error: Bad fd number"
  | unexpected symbol none => "Syntax error: " ++ symbol ++ " unexpected"
  | unexpected symbol (some expected) =>
    "Syntax error: " ++ symbol ++ " unexpected (expecting " ++ expected ++ ")"
  | unclosed symbol _ | badQuestion _ symbol => "Syntax error: " ++ symbol ++ " unexpected"
  | early | openQuestion _ => "Syntax error: end of file unexpected"

/-- The lines that tell of a fault in the extended language, given the text of the line where it
shows. -/
def SyntaxFault.lines (shown : String) : SyntaxFault → List String
  | unexpected symbol _ => near "unexpected token " symbol
  | unclosed symbol _ => ["unexpected EOF while looking for matching " ++ inMarks symbol]
  | badQuestion lead symbol => lead.toList ++ near "" symbol
  | _ => ["syntax error: unexpected end of file"]
where
  /-- A text in marks. -/
  inMarks (text : String) : String := "`" ++ text ++ "'"
  /-- The symbol where a fault shows, and its line. -/
  near (what symbol : String) : List String :=
    ["syntax error near " ++ what ++ inMarks symbol, inMarks shown]

end ScriptedShell.Local.Script
