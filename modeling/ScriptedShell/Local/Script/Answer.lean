/-
# Answers

The answers to questions in double brackets.  Texts are not split and stand for no paths; the right
side of a comparison is a pattern or a regular expression, and numbers are expressions.
-/
import ScriptedShell.Local.Script.Alternation
import ScriptedShell.Local.Script.Builtin
import ScriptedShell.Local.Script.Choices
import ScriptedShell.Local.Script.Expansion
import ScriptedShell.Local.Script.Judgement
import ScriptedShell.Regex.Reader
import ScriptedShell.Regex.Search

namespace ScriptedShell.Local.Script

open Files Text

namespace Question

/-- The characters that have a meaning in regular expressions. -/
def regexSigns : List Char := "\\^$.|?*+()[]\x7b\x7d".toList

/-- The text of a regular expression, where what is quoted stands for itself. -/
def regexText (bits : List Bit) : List Char :=
  bits.flatMap fun b => match b with
    | .char c true _ => if regexSigns.elem c then ['\\', c] else [c]
    | .char c false _ => [c]
    | _ => []

/-- Whether a variable, or an item of one, has a value. -/
def isSet (text : String) : Sh Bool := do
  let p ← Expansion.subjectNamed text
  return p.value.isSome

/-- Whether an option with a name is set. -/
def isOption (name : String) : Sh Bool := do
  return Choices.isSet (← get) name

/-- An answer that may ask for a number that is none. -/
def answered (ask : Condition.Reader Bool) : Sh Bool :=
  match ask [] with
  | (.ok result, _) => return result
  | (.error fault, _) => Sh.fail fault.message

/-- The answer about one operand. -/
def unaryAnswer (operator operand : String) : Sh Bool := do
  match operator with
  | "-v" => isSet operand
  | "-o" => isOption operand
  | "-a" => answered (Condition.unaryAnswer (Builtin.world (← get)) "-e" operand)
  | "-R" => return false
  | _ => answered (Condition.unaryAnswer (Builtin.world (← get)) operator operand)

/-- The answer about two paths or texts. -/
def binaryAnswer (a operator b : String) : Sh Bool := do
  let world := Builtin.world (← get)
  let isThere := fun (path : String) => (world.node path).isSome
  let number := fun (text : String) => Sh.compute Sh.maxComputed text
  match operator with
  | "-nt" => if isThere a && !isThere b then return true
  | "-ot" => if isThere b && !isThere a then return true
  | _ => pure ()
  if ["-eq", "-ne", "-lt", "-le", "-gt", "-ge"].elem operator then
    let m ← number a
    let n ← number b
    answered (Condition.binaryAnswer world (toString m) operator (toString n))
  else answered (Condition.binaryAnswer world a operator b)

/-- Whether a regular expression stands for a stretch of a text; the stretches of its groups become
the items of a variable. -/
def matchAnswer (text : List Char) (expression : List Char) : Sh (Option Bool) := do
  match Regex.read { isExtended := true } expression with
  | .error _ => return none
  | .ok regex =>
    let subject : Regex.Subject := { text := text.toArray }
    let keep := fun (texts : List String) =>
      Sh.putVariable "BASH_REMATCH" (Variable.withItems {} (.ofList texts))
    match regex.search? subject 0 with
    | none =>
      keep []
      return some false
    | some found =>
      keep ((List.range (regex.groupCount + 1)).map fun n =>
        String.ofList (found.text subject n))
      return some true

/-- The answer to a question: `none` if there is none. -/
def answer (out : Expansion.Output) : (fuel : Nat) → Question → Sh (Option Bool)
  | 0, _ => return none
  | fuel + 1, question => do
    match question with
    | .negated inner => return (← answer out fuel inner).map not
    | .both first second =>
      match ← answer out fuel first with
      | some true => answer out fuel second
      | result => return result
    | .either first second =>
      match ← answer out fuel first with
      | some false => answer out fuel second
      | result => return result
    | .unary operator word =>
      let text ← Sh.textFor out word
      Sh.traceText ("[[ " ++ operator ++ " " ++ text ++ " ]]")
      return some (← unaryAnswer operator text)
    | .binary operator first second =>
      let a ← Sh.textFor out first
      let trace := fun (b : String) =>
        Sh.traceText ("[[ " ++ a ++ " " ++ operator ++ " " ++ b ++ " ]]")
      if operator = "=~" then
        let bits ← Expansion.bits out maxWordDepth { hasHome := true } second
        trace (String.ofList (regexText bits))
        matchAnswer a.toList (regexText bits)
      else if operator = "=" || operator = "==" || operator = "!=" then
        let marks ← Sh.patternFor out second
        trace (String.ofList (marks.flatMap fun m => if m.isWild then [m.char] else ['\\', m.char]))
        let holds ← Sh.standsFor Alternation.matchesAll marks a.toList
        return some (holds != (operator = "!="))
      else
        let b ← Sh.textFor out second
        trace b
        return some (← binaryAnswer a operator b)

end Question

/-- How deep questions can stand inside each other. -/
def maxQuestionDepth : Nat := 1000

end ScriptedShell.Local.Script
