/-
# Judgements

What `test` finds out as a program of its own.  The number of the words decides what they can be: up
to four words are a question, with a negation before it or in brackets; only longer conditions are
read as questions joined by operators.
-/
import ScriptedShell.Local.Script.Condition

namespace ScriptedShell.Local.Script

open Files

/-- Why a judgement cannot be made. -/
inductive JudgementFault where
  | missingAfter (word : String)
  | binaryExpected (word : String)
  | unaryExpected (word : String)
  | extra (word : String)
  | badInteger (text : String)
  | closingExpected (found : Option String)
  deriving Repr, DecidableEq

namespace Judgement

/-- Reading a condition: the words from the current one on. -/
abbrev Reader := StateT (List String) (Except JudgementFault)

/-- The words of a condition. -/
structure Setting where
  world : World
  words : List String
  /-- Further operators of one operand, with what they find out. -/
  further : String → Option (String → Bool) := fun _ => none
  /-- Whether order is an operator too. -/
  hasOrder : Bool := false

namespace Setting

/-- The operators of two operands. -/
def isBinary (s : Setting) (word : String) : Bool :=
  ["=", "==", "!=", "-eq", "-ne", "-lt", "-le", "-gt", "-ge", "-nt", "-ot", "-ef"].elem word ||
    (s.hasOrder && (word = "<" || word = ">"))

/-- Whether a word is an operator of one operand. -/
def isUnary (s : Setting) (word : String) : Bool :=
  (s.further word).isSome || ["-e", "-b", "-c", "-d", "-f", "-g", "-G", "-h", "-k", "-L", "-n",
    "-N", "-O", "-p", "-r", "-s", "-S", "-t", "-u", "-w", "-x", "-z"].elem word

/-- Whether a word is a dash and a letter. -/
def isOption (word : String) : Bool :=
  match word.toList with
  | ['-', _] => true
  | _ => false

/-- Say that an operand is missing at the end. -/
def beyond (s : Setting) : Reader α := throw (.missingAfter (s.words.getLastD ""))

/-- The current word. -/
def word (s : Setting) : Reader String := do
  match ← get with
  | [] => s.beyond
  | w :: _ => return w

/-- Go on to the next word, which has to be there if `must` says so. -/
def next (s : Setting) (must : Bool) : Reader Unit := do
  modify (List.drop 1)
  if must && (← get).isEmpty then s.beyond

/-- The answer of a question from another way to ask it. -/
def answer (ask : Condition.Reader Bool) : Reader Bool :=
  match ask [] with
  | (.ok result, _) => return result
  | (.error (.badNumber text), _) => throw (.badInteger text)
  | (.error _, _) => return false

/-- A question about one operand. -/
def unary (s : Setting) : Reader Bool := do
  let operator ← s.word
  s.next true
  let operand ← s.word
  s.next false
  match s.further operator with
  | some has => return has operand
  | none => answer (Condition.unaryAnswer s.world operator operand)

/-- A question about two operands. -/
def binary (s : Setting) : Reader Bool := do
  match ← get with
  | a :: operator :: b :: _ =>
    modify (List.drop 3)
    let isThere := fun (path : String) => (s.world.node path).isSome
    match operator with
    | "==" => return a = b
    | "-nt" => if isThere a && !isThere b then return true
    | "-ot" => if isThere b && !isThere a then return true
    | _ => pure ()
    answer (Condition.binaryAnswer s.world a operator b)
  | _ => s.beyond

/-- A condition of one word. -/
def one (s : Setting) : Reader Bool := do
  let w ← s.word
  s.next false
  return !w.isEmpty

/-- A condition of two words. -/
def two (s : Setting) : Reader Bool := do
  let w ← s.word
  if w = "!" then
    s.next true
    return !(← s.one)
  else if isOption w then
    if s.isUnary w then s.unary else throw (.unaryExpected w)
  else s.beyond

mutual

/-- Conditions one of which must hold. -/
def anyOf (s : Setting) : (fuel : Nat) → Reader Bool
  | 0 => return false
  | fuel + 1 => do
    let one ← s.allOf fuel
    match ← get with
    | "-o" :: _ =>
      s.next false
      let others ← s.anyOf fuel
      return one || others
    | _ => return one

/-- Conditions that must all hold. -/
def allOf (s : Setting) : (fuel : Nat) → Reader Bool
  | 0 => return false
  | fuel + 1 => do
    let one ← s.term fuel
    match ← get with
    | "-a" :: _ =>
      s.next false
      let others ← s.allOf fuel
      return one && others
    | _ => return one

/-- A question, or a condition in brackets, with negations before it. -/
def term (s : Setting) : (fuel : Nat) → Reader Bool
  | 0 => return false
  | fuel + 1 => do
    let w ← s.word
    let rest ← get
    if w = "!" then
      s.next true
      return !(← s.term fuel)
    else if w = "(" then
      s.next true
      let inner ← get
      let count := ((inner.drop 1).takeWhile (· != ")")).length + 1
      let result ← s.counted fuel (if 4 ≤ count then inner.length else count)
      match ← get with
      | ")" :: _ =>
        s.next false
        return result
      | found => throw (.closingExpected found.head?)
    else if 3 ≤ rest.length && s.isBinary (rest.getD 1 "") then s.binary
    else if isOption w then
      if s.isUnary w then s.unary else throw (.unaryExpected w)
    else s.one

/-- A condition of a number of words. -/
def counted (s : Setting) : (fuel count : Nat) → Reader Bool
  | 0, _ => return false
  | fuel + 1, count => do
    match count, ← get with
    | 1, _ => s.one
    | 2, _ => s.two
    | 3, words => s.three fuel words
    | 4, "!" :: _ =>
      s.next true
      return !(← s.three fuel (← get))
    | 4, "(" :: _ :: _ :: ")" :: _ =>
      s.next false
      let result ← s.two
      s.next false
      return result
    | _, _ => s.anyOf fuel

/-- A condition of three words. -/
def three (s : Setting) : (fuel : Nat) → List String → Reader Bool
  | 0, _ => return false
  | fuel + 1, words => do
    match words with
    | a :: operator :: c :: _ =>
      if s.isBinary operator then s.binary
      else if a = "!" then
        s.next true
        return !(← s.two)
      else if a = "(" && c = ")" then
        s.next false
        let result ← s.one
        s.next false
        return result
      else if operator = "-a" || operator = "-o" then s.anyOf fuel
      else throw (.binaryExpected operator)
    | _ => s.beyond

end

/-- Whether the condition that the words make holds. -/
def holds (s : Setting) : Except JudgementFault Bool := do
  if s.words.isEmpty then return false
  let (result, left) ← (s.counted (6 * (s.words.length + 2)) s.words.length).run s.words
  match left with
  | [] => return result
  | w :: _ => throw (.extra w)

end Setting

end Judgement

end ScriptedShell.Local.Script
