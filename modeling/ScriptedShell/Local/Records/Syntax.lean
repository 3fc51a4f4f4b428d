/-
# Rules for records

A text is read as records, and each record has fields.  A set of rules says what is done with the
records: a rule has an occasion, such as a record that a pattern fits, and statements that are carried
out then.  Statements work on variables, on tables of values and on the fields of the record.
-/
import ScriptedShell.Number.Quantity
import ScriptedShell.Regex.Basic

namespace ScriptedShell.Local.Records

open Number

/-- What is calculated with two numbers. -/
inductive Operator where
  | plus
  | minus
  | times
  | over
  | rest
  | power
  deriving Repr, DecidableEq

/-- What two values are compared for. -/
inductive Comparison where
  | less
  | atMost
  | same
  | other
  | atLeast
  | more
  deriving Repr, DecidableEq

/-- A function that every set of rules has. -/
inductive Function where
  | length
  | substr
  | index
  | split
  | sub
  | gsub
  | find
  | sprintf
  | sin
  | cos
  | atan2
  | exp
  | log
  | sqrt
  | int
  | rand
  | srand
  | lower
  | upper
  | system
  | close
  | flush
  deriving Repr, DecidableEq

/-- Where the value of a variable is: it is shared by all rules, or it belongs to a routine. -/
inductive Slot where
  | shared (name : String)
  | own (number : Nat)
  deriving Repr, DecidableEq

/-- An expression. -/
inductive Expr where
  | number (q : Quantity)
  | text (s : String)
  /-- Whether the record fits a pattern; where a pattern is asked for, the pattern itself. -/
  | pattern (r : Regex)
  | slot (s : Slot)
  | element (table : Slot) (index : List Expr)
  | field (number : Expr)
  /-- Give a value to a place, which may be calculated with the value that is there. -/
  | assign (goal : Expr) (how : Option Operator) (value : Expr)
  /-- Count a place up or down; the value is the one after it or the one before it. -/
  | step (goal : Expr) (isUp isAfter : Bool)
  | choose (condition yes no : Expr)
  | both (a b : Expr)
  | either (a b : Expr)
  | isIn (index : List Expr) (table : Slot)
  | like (isNegated : Bool) (subject pattern : Expr)
  | compare (how : Comparison) (a b : Expr)
  | join (a b : Expr)
  | calculate (how : Operator) (a b : Expr)
  | negative (a : Expr)
  | positive (a : Expr)
  | opposite (a : Expr)
  | call (routine : String) (arguments : List Expr)
  | apply (f : Function) (arguments : List Expr)
  /-- Read the next record. -/
  | read (goal : Option Expr)
  | readFile (goal : Option Expr) (path : Expr)
  | readCommand (goal : Option Expr) (command : Expr)
  deriving Repr

instance : Inhabited Expr := ⟨.text ""⟩

/-- Where something is printed to. -/
inductive Outward where
  | file
  /-- After what is in the file. -/
  | fileEnd
  | command
  deriving Repr, DecidableEq

/-- A statement. -/
inductive Statement where
  | evaluate (e : Expr)
  | print (values : List Expr) (goal : Option (Outward × Expr))
  | printf (values : List Expr) (goal : Option (Outward × Expr))
  | block (body : List Statement)
  | choose (condition : Expr) (yes : Statement) (no : Option Statement)
  | loop (condition : Expr) (body : Statement)
  /-- A loop whose condition is looked at after each turn. -/
  | turn (body : Statement) (condition : Expr)
  | count (first condition next : Option Expr) (body : Statement)
  | each (goal table : Slot) (body : Statement)
  | nextRecord
  | nextFile
  | exit (code : Option Expr)
  | giveBack (value : Option Expr)
  | leave
  | goOn
  /-- Take an element out of a table, or all of them. -/
  | erase (table : Slot) (index : List Expr)
  deriving Repr

instance : Inhabited Statement := ⟨.block []⟩

/-- When a rule is for something. -/
inductive Occasion where
  /-- Before all records. -/
  | start
  /-- After all records. -/
  | finish
  | record (condition : Option Expr)
  /-- All records from one to another. -/
  | between (first last : Expr)
  deriving Repr

/-- A rule; without statements it prints the record. -/
structure Rule where
  occasion : Occasion
  body : Option (List Statement)
  deriving Repr

/-- Statements that can be called with values for the first of their own variables. -/
structure Routine where
  parameters : Nat
  body : List Statement
  deriving Repr

/-- A set of rules. -/
structure RuleSet where
  rules : List Rule := []
  routines : List (String × Routine) := []
  deriving Repr

/-! ## Faults -/

/-- Whether a name stands for one value or for a table of values. -/
inductive NameKind where
  | single
  | table
  deriving Repr, DecidableEq

/-- What is wrong with a written set of rules. -/
inductive RuleFault where
  /-- Something stands where it cannot stand. -/
  | near (text : String)
  | missing (sign : Char) (text : String)
  | extra (sign : Char)
  | unexpected (c : Char)
  | openText (front : String)
  | openPattern (front : String)
  | tooLarge (number : String)
  | neverDefined (name : String)
  | definedAgain (name : String)
  | doubled (name : String)
  | ownName
  | tooMany (name : String)
  | wrongNumber (name : String)
  | noArguments (name : String)
  | outsideRoutine
  | outsideLoop (word : String)
  | improper (word : String)
  | misused (kind : NameKind) (isOwn : Bool) (name : String)
  | pattern (reason text : String)
  deriving Repr, DecidableEq

/-- How a kind of name is called. -/
def NameKind.text : NameKind → String
  | single => "variable"
  | table => "array"

/-- The wording of a fault. -/
def RuleFault.text : RuleFault → String
  | near text => "syntax error at or near " ++ text
  | missing sign text => "missing " ++ String.singleton sign ++ " near " ++ text
  | extra sign => "extra '" ++ String.singleton sign ++ "'"
  | unexpected c => "unexpected character '" ++ String.singleton c ++ "'"
  | openText front => "runaway string constant \"" ++ front ++ " ..."
  | openPattern front => "runaway regular expression /" ++ front ++ " ..."
  | tooLarge number => number ++ " : decimal overflow"
  | neverDefined name => "function " ++ name ++ " never defined"
  | definedAgain name => "redefinition of " ++ name
  | doubled name => name ++ " is duplicated in argument list"
  | ownName => "function parameter cannot be the function"
  | tooMany name => "too many arguments in call to " ++ name
  | wrongNumber name => "wrong number of arguments in call to " ++ name
  | noArguments name => "no arguments in call to " ++ name
  | outsideRoutine => "return outside function body"
  | outsideLoop word => word ++ " statement outside of loop"
  | improper word => "improper use of " ++ word
  | misused kind isOwn name =>
    "illegal reference to " ++ (if isOwn then "local " else "") ++ kind.text ++ " " ++ name
  | pattern reason text =>
    "regular expression compile failed (" ++ reason ++ ")\n" ++ text

end ScriptedShell.Local.Records
