/-
# Expressions and conditions

Programs that find out the value of an expression or whether a condition holds.
-/
import ScriptedShell.Local.Program.Print
import ScriptedShell.Local.Script.Judgement
import ScriptedShell.Regex.Reader
import ScriptedShell.Regex.Search

namespace ScriptedShell.Local.Program

open Act Files Text

/-! ## Values -/

/-- The number that a text writes, with a sign before it if it is negative. -/
def integer? (text : String) : Option Int :=
  let (isNegative, digits) := match text.toList with
    | '-' :: ds => (true, ds)
    | ds => (false, ds)
  if !digits.isEmpty && digits.all Char.isDigit then
    let n : Int := (digits.foldl (fun n c => 10 * n + (c.toNat - '0'.toNat)) 0 : Nat)
    some (if isNegative then -n else n)
  else none

/-- Whether a value counts as false: an empty text, or zeros. -/
def isNothing (value : String) : Bool :=
  match value.toList with
  | [] => true
  | '-' :: ds => !ds.isEmpty && ds.all (· = '0')
  | ds => ds.all (· = '0')

/-- Why an expression has no value. -/
inductive ExpressionFault where
  | missingAfter (word : String)
  | unexpected (word : String)
  | unexpectedClosing
  | closingAfter (word : String)
  | closingInstead (word : String)
  | notInteger
  | divisionByZero
  | pattern (fault : RegexFault)
  deriving Repr, DecidableEq

/-- The wording of a fault. -/
def ExpressionFault.text : ExpressionFault → String
  | missingAfter w => "syntax error: missing argument after " ++ Named.quoted w
  | unexpected w => "syntax error: unexpected argument " ++ Named.quoted w
  | unexpectedClosing => "syntax error: unexpected ')'"
  | closingAfter w => "syntax error: expecting ')' after " ++ Named.quoted w
  | closingInstead w => "syntax error: expecting ')' instead of " ++ Named.quoted w
  | notInteger => "non-integer argument"
  | divisionByZero => "division by zero"
  | pattern fault => fault.text

/-- Reading an expression: the word before the current one, and the words from there on. -/
abbrev ExpressionReader := StateT (String × List String) (Except ExpressionFault)

namespace Expression

/-- Take the next word if it is one of some words. -/
def take? (words : List String) : ExpressionReader (Option String) := do
  match ← get with
  | (_, w :: rest) =>
    if words.elem w then
      set (w, rest)
      return some w
    else return none
  | _ => return none

/-- What a pattern finds at the front of a text: its first group, or how much it stands for. -/
def matched (text pattern : String) : ExpressionReader String := do
  match Regex.read {} pattern.toList with
  | .error fault => throw (.pattern fault)
  | .ok r =>
    let subject : Regex.Subject := { text := text.toList.toArray }
    match r.longestAt? subject 0 with
    | none => return if r.groupCount = 0 then "0" else ""
    | some f =>
      return if r.groupCount = 0 then toString f.stop else String.ofList (f.text subject 1)

/-- The order of two values: as numbers if both are numbers. -/
def compared (a b : String) : Ordering :=
  match integer? a, integer? b with
  | some m, some n => compare m n
  | _, _ => compare a b

/-- Whether an order is the one that a sign asks for. -/
def fits (sign : String) (o : Ordering) : Bool :=
  match sign with
  | "<" => o = .lt
  | "<=" => o != .gt
  | "=" | "==" => o = .eq
  | "!=" => o != .eq
  | ">=" => o != .lt
  | _ => o = .gt

/-- The value of a calculation with two numbers. -/
def calculated (sign a b : String) : ExpressionReader String := do
  match integer? a, integer? b with
  | some m, some n =>
    match sign with
    | "+" => return toString (m + n)
    | "-" => return toString (m - n)
    | "*" => return toString (m * n)
    | sign =>
      if n = 0 then throw .divisionByZero
      return toString (if sign = "/" then Int.tdiv m n else Int.tmod m n)
  | _, _ => throw .notInteger

/-- The place of the first character of a text that is among others; zero if there is none. -/
def indexOf (text characters : String) : Nat :=
  ((text.toList.findIdx? characters.toList.elem).map (· + 1)).getD 0

/-- A part of a text. -/
def part (text place count : String) : String :=
  match integer? place, integer? count with
  | some p, some n =>
    if p < 1 || n < 1 then ""
    else String.ofList ((text.toList.drop (p.toNat - 1)).take n.toNat)
  | _, _ => ""

mutual

/-- Values of which the first one counts that is something. -/
def either (isAsked : Bool) : (fuel : Nat) → ExpressionReader String
  | 0 => return ""
  | fuel + 1 => do
    let first ← both isAsked fuel
    eitherMore isAsked fuel first

/-- Further values after a first one. -/
def eitherMore (isAsked : Bool) : (fuel : Nat) → String → ExpressionReader String
  | 0, value => return value
  | fuel + 1, value => do
    match ← take? ["|"] with
    | none => return value
    | some _ =>
      let other ← both (isAsked && isNothing value) fuel
      let value := if !isNothing value then value else if isNothing other then "0" else other
      eitherMore isAsked fuel value

/-- Values that must all be something. -/
def both (isAsked : Bool) : (fuel : Nat) → ExpressionReader String
  | 0 => return ""
  | fuel + 1 => do
    let first ← comparison isAsked fuel
    bothMore isAsked fuel first

/-- Further values after a first one. -/
def bothMore (isAsked : Bool) : (fuel : Nat) → String → ExpressionReader String
  | 0, value => return value
  | fuel + 1, value => do
    match ← take? ["&"] with
    | none => return value
    | some _ =>
      let other ← comparison (isAsked && !isNothing value) fuel
      bothMore isAsked fuel (if isNothing value || isNothing other then "0" else value)

/-- Comparisons. -/
def comparison (isAsked : Bool) : (fuel : Nat) → ExpressionReader String
  | 0 => return ""
  | fuel + 1 => do
    let first ← calculation isAsked ["+", "-"] fuel
    comparisonMore isAsked fuel first

/-- Further comparisons after a first value. -/
def comparisonMore (isAsked : Bool) : (fuel : Nat) → String → ExpressionReader String
  | 0, value => return value
  | fuel + 1, value => do
    match ← take? ["<", "<=", "=", "==", "!=", ">=", ">"] with
    | none => return value
    | some sign =>
      let other ← calculation isAsked ["+", "-"] fuel
      comparisonMore isAsked fuel (if fits sign (compared value other) then "1" else "0")

/-- Sums, or products inside sums. -/
def calculation (isAsked : Bool) (signs : List String) : (fuel : Nat) → ExpressionReader String
  | 0 => return ""
  | fuel + 1 => do
    let first ← if signs = ["+", "-"] then calculation isAsked ["*", "/", "%"] fuel
      else matching isAsked fuel
    calculationMore isAsked signs fuel first

/-- Further parts of a sum or a product. -/
def calculationMore (isAsked : Bool) (signs : List String) :
    (fuel : Nat) → String → ExpressionReader String
  | 0, value => return value
  | fuel + 1, value => do
    match ← take? signs with
    | none => return value
    | some sign =>
      let other ← if signs = ["+", "-"] then calculation isAsked ["*", "/", "%"] fuel
        else matching isAsked fuel
      let value ← if isAsked then calculated sign value other else pure value
      calculationMore isAsked signs fuel value

/-- Values that patterns are compared with. -/
def matching (isAsked : Bool) : (fuel : Nat) → ExpressionReader String
  | 0 => return ""
  | fuel + 1 => do
    let first ← named isAsked fuel
    matchingMore isAsked fuel first

/-- Further patterns after a value. -/
def matchingMore (isAsked : Bool) : (fuel : Nat) → String → ExpressionReader String
  | 0, value => return value
  | fuel + 1, value => do
    match ← take? [":"] with
    | none => return value
    | some _ =>
      let pattern ← named isAsked fuel
      let value ← if isAsked then matched value pattern else pure value
      matchingMore isAsked fuel value

/-- The values of functions. -/
def named (isAsked : Bool) : (fuel : Nat) → ExpressionReader String
  | 0 => return ""
  | fuel + 1 => do
    match ← take? ["+", "length", "match", "index", "substr"] with
    | none => primary isAsked fuel
    | some "+" =>
      match ← get with
      | (_, w :: rest) =>
        set (w, rest)
        return w
      | (before, []) => throw (.missingAfter before)
    | some "length" => return toString (← named isAsked fuel).length
    | some "match" =>
      let text ← named isAsked fuel
      let pattern ← named isAsked fuel
      if isAsked then matched text pattern else return text
    | some "index" =>
      let text ← named isAsked fuel
      let characters ← named isAsked fuel
      return toString (indexOf text characters)
    | some _ =>
      let text ← named isAsked fuel
      let place ← named isAsked fuel
      let count ← named isAsked fuel
      return part text place count

/-- A word, or an expression in brackets. -/
def primary (isAsked : Bool) : (fuel : Nat) → ExpressionReader String
  | 0 => return ""
  | fuel + 1 => do
    match ← get with
    | (before, []) => throw (.missingAfter before)
    | (_, "(" :: rest) =>
      set ("(", rest)
      let value ← either isAsked fuel
      match ← get with
      | (before, []) => throw (.closingAfter before)
      | (_, w :: rest) =>
        if w != ")" then throw (.closingInstead w)
        set (w, rest)
        return value
    | (_, ")" :: _) => throw .unexpectedClosing
    | (_, w :: rest) =>
      set (w, rest)
      return w

end

/-- The value of an expression. -/
def value (words : List String) : Except ExpressionFault String := do
  let (value, (_, left)) ← (either true (12 * (words.length + 2))).run ("", words)
  match left with
  | [] => return value
  | w :: _ => throw (.unexpected w)

end Expression

/-- Print the value of an expression. -/
def expr (_ : Runner) : Program := do
  let words ← arguments
  let words := if words.head? = some "--" then words.drop 1 else words
  if words.isEmpty then missingOperand 2
  match Expression.value words with
  | .ok value =>
    print (value ++ "\n")
    return if isNothing value then 1 else 0
  | .error fault =>
    complain fault.text
    return 2

/-! ## Conditions -/

/-- What a task can ask about the world. -/
def taskWorld (task : Task) (t : Tree) : Script.World :=
  { node := fun path =>
      if (streamAt? path).any fun n => (task.streams.lookup n).isSome then some ([], .device .null)
      else (t.node task.directory (ofOctets path)).toOption
    linkNode := fun path => (t.linkNode task.directory (ofOctets path)).toOption
    mode := t.modeOf
    changed := t.changedAt }

/-- The wording of why a judgement cannot be made. -/
def judgementText : Script.JudgementFault → String
  | .missingAfter w => "missing argument after " ++ Named.quoted w
  | .binaryExpected w => Named.quoted w ++ ": binary operator expected"
  | .unaryExpected w => Named.quoted w ++ ": unary operator expected"
  | .extra w => "extra argument " ++ Named.quoted w
  | .badInteger text => "invalid integer " ++ Named.quoted text
  | .closingExpected none => "')' expected"
  | .closingExpected (some w) => "')' expected, found " ++ w

/-- Find out whether a condition holds. -/
def judge (words : List String) : Act Nat := do
  let world := taskWorld (← read) (← tree)
  let setting : Script.Judgement.Setting := { world, words }
  match setting.holds with
  | .ok result => return if result then 0 else 1
  | .error fault =>
    complain (judgementText fault)
    return 2

/-- Find out whether a condition holds. -/
def test (_ : Runner) : Program := do judge (← arguments)

/-- Find out whether a condition in brackets holds. -/
def bracketed (_ : Runner) : Program := do
  let words ← arguments
  if words.getLast? = some "]" then judge words.dropLast
  else
    complain "missing ']'"
    return 2

/-- The programs that find out values and conditions. -/
def calculating : List (String × (Runner → Program)) :=
  [("expr", expr), ("test", test), ("[", bracketed)]

end ScriptedShell.Local.Program
