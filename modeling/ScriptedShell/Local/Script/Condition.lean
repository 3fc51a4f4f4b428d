/-
# Conditions

What `test` finds out: about texts, about numbers and about files, and about several things at once.
An argument that could be an operator is one only where an operand can follow it.
-/
import ScriptedShell.Files.Tree
import ScriptedShell.Local.Script.Arithmetic

namespace ScriptedShell.Local.Script

open Files

/-- What conditions ask about the world. -/
structure World where
  /-- What stands where a path leads. -/
  node : String → Option (Place × Node)
  /-- What stands where a path leads when a link at its end is not followed. -/
  linkNode : String → Option (Place × Node)
  mode : Place → Nat
  changed : Place → Nat

/-- Why a condition has no answer. -/
inductive ConditionFault where
  | unexpected (argument : String)
  | missing (operator : String)
  | openBracket
  | badNumber (text : String)
  deriving Repr, DecidableEq

/-- The wording of a fault of a condition. -/
def ConditionFault.message : ConditionFault → String
  | unexpected argument =>
    if argument.isEmpty then "unexpected operator" else argument ++ ": unexpected operator"
  | missing operator => operator ++ ": argument expected"
  | openBracket => "closing paren expected"
  | badNumber text => "Illegal number: " ++ text

namespace Condition

/-- What a word of a condition can be. -/
inductive Role where
  | unary
  | binary
  | both
  | either
  | negation
  | opening
  | closing
  deriving Repr, DecidableEq

/-- The operators of one operand. -/
def unaries : List String :=
  ["-r", "-w", "-x", "-e", "-f", "-d", "-c", "-b", "-p", "-u", "-g", "-k", "-s", "-t", "-z", "-n",
    "-h", "-O", "-G", "-L", "-S"]

/-- The operators of two operands. -/
def binaries : List String :=
  ["=", "!=", "<", ">", "-eq", "-ne", "-ge", "-gt", "-le", "-lt", "-nt", "-ot", "-ef"]

/-- What a word can be. -/
def roleOf? (word : String) : Option Role :=
  if unaries.elem word then some .unary
  else if binaries.elem word then some .binary
  else match word with
    | "-a" => some .both
    | "-o" => some .either
    | "!" => some .negation
    | "(" => some .opening
    | ")" => some .closing
    | _ => none

/-- What the first of some words is: `none` inside for an operand, `none` when there are no words. -/
def roleAt : List String → Option (Option Role)
  | [] => none
  | word :: rest =>
    match roleOf? word with
    | some .unary => some (if isOperand rest then none else some .unary)
    | some .opening => some (if rest.isEmpty then none else some .opening)
    | role => some role
where
  /-- Whether a word before others cannot be an operator of one operand. -/
  isOperand : List String → Bool
    | [] => true
    | [_] => false
    | next :: _ => roleOf? next = some .binary

/-- What reads a condition: the words from the current one on. -/
abbrev Reader := ExceptT ConditionFault (StateM (List String))

/-- Go on by a number of words. -/
def advance (n : Nat) : Reader Unit := modify (List.drop n)

/-! ## Questions -/

/-- The number that a text writes. -/
def numberOf (text : String) : Reader Int :=
  match Arithmetic.decimal? text with
  | some n => return n
  | none => throw (.badNumber text)

/-- The number of bytes of a node. -/
def sizeOf (n : Node) : Nat :=
  match n with
  | .file bytes => bytes.length
  | .program _ | .directory => 4096
  | .link target => target.utf8ByteSize
  | .device _ => 0

/-- The answer about one operand. -/
def unaryAnswer (w : World) (operator operand : String) : Reader Bool := do
  let about := fun (holds : Place → Node → Bool) =>
    (w.node operand).any fun p => holds p.1 p.2
  let hasBit := fun (bit : Nat) => about fun place _ => Nat.land (w.mode place) bit != 0
  match operator with
  | "-z" => return operand.isEmpty
  | "-n" => return !operand.isEmpty
  | "-t" => do let _ ← numberOf operand; return false
  | "-x" => return about fun place n => n = .directory || Nat.land (w.mode place) 0o111 != 0
  | "-f" => return about fun _ n => match n with
    | .file _ | .program _ => true
    | _ => false
  | "-d" => return about fun _ n => n = .directory
  | "-c" => return about fun _ n => match n with
    | .device _ => true
    | _ => false
  | "-b" | "-p" | "-S" => return false
  | "-s" => return about fun _ n => sizeOf n != 0
  | "-h" | "-L" => return (w.linkNode operand).any fun p => match p.2 with
    | .link _ => true
    | _ => false
  | "-u" => return hasBit 0o4000
  | "-g" => return hasBit 0o2000
  | "-k" => return hasBit 0o1000
  | _ => return about fun _ _ => true

/-- The answer about two operands. -/
def binaryAnswer (w : World) (a operator b : String) : Reader Bool := do
  let compare := fun (holds : Int → Int → Bool) => do return holds (← numberOf a) (← numberOf b)
  let changed := fun (path : String) => (w.node path).map fun p => w.changed p.1
  match operator with
  | "=" => return a = b
  | "!=" => return a != b
  | "<" => return a < b
  | ">" => return b < a
  | "-eq" => compare fun m n => m = n
  | "-ne" => compare fun m n => m != n
  | "-ge" => compare fun m n => n ≤ m
  | "-gt" => compare fun m n => n < m
  | "-le" => compare fun m n => m ≤ n
  | "-lt" => compare fun m n => m < n
  | "-nt" => return match changed a, changed b with
    | some m, some n => n < m
    | _, _ => false
  | "-ot" => return match changed a, changed b with
    | some m, some n => m < n
    | _, _ => false
  | _ => return match w.node a, w.node b with
    | some (p, _), some (q, _) => p = q
    | _, _ => false

/-! ## Reading -/

mutual

/-- Conditions one of which must hold.  The current word is read; afterwards the current word is the
last one that has been read. -/
def anyOf (fuel : Nat) (w : World) (result : Bool) : Reader Bool :=
  match fuel with
  | 0 => return result
  | fuel + 1 => do
    let one ← allOf fuel w true
    let words ← get
    if !words.isEmpty && roleAt (words.drop 1) = some (some .either) then
      advance 2
      anyOf fuel w (result || one)
    else return result || one

/-- Conditions that must all hold. -/
def allOf (fuel : Nat) (w : World) (result : Bool) : Reader Bool :=
  match fuel with
  | 0 => return result
  | fuel + 1 => do
    let one ← negated fuel w
    let words ← get
    if !words.isEmpty && roleAt (words.drop 1) = some (some .both) then
      advance 2
      allOf fuel w (result && one)
    else return result && one

/-- A condition that can have negations before it. -/
def negated (fuel : Nat) (w : World) : Reader Bool :=
  match fuel with
  | 0 => return false
  | fuel + 1 => do
    if roleAt (← get) = some (some .negation) then
      if (← get).length > 1 then
        advance 1
        return !(← negated fuel w)
      else return true
    else primary fuel w

/-- A condition in brackets, or one question. -/
def primary (fuel : Nat) (w : World) : Reader Bool :=
  match fuel with
  | 0 => return false
  | fuel + 1 => do
    match ← get, roleAt (← get) with
    | [], _ => return false
    | _ :: rest, some (some .opening) =>
      if roleAt rest = some (some .closing) then
        advance 1
        return false
      else
        advance 1
        let result ← anyOf fuel w false
        advance 1
        if roleAt (← get) != some (some .closing) then throw .openBracket
        return result
    | operator :: rest, some (some .unary) =>
      match rest with
      | [] => throw (.missing operator)
      | operand :: _ =>
        advance 1
        unaryAnswer w operator operand
    | a :: rest, _ =>
      if roleAt rest = some (some .binary) then binary a rest else return !a.isEmpty
where
  /-- A question about two operands, the second of which follows the operator. -/
  binary (a : String) (rest : List String) : Reader Bool :=
    match rest with
    | operator :: b :: _ => do
      advance 2
      binaryAnswer w a operator b
    | operator :: _ => throw (.missing operator)
    | [] => return false

end

/-- Whether the conditions in words hold, from a first reading on. -/
def readAll (w : World) (words : List String) (isQuestion : Bool) : Except ConditionFault Bool :=
  let fuel := 4 * (words.length + 2)
  let read : Reader Bool := do
    if isQuestion then
      match words with
      | a :: operator :: b :: _ =>
        advance 2
        binaryAnswer w a operator b
      | _ => return false
    else anyOf fuel w false
  match read words with
  | (.error fault, _) => .error fault
  | (.ok result, left) =>
    match left with
    | word :: _ :: _ => .error (.unexpected word)
    | _ => .ok result

/-- Whether the condition that words make holds. -/
def holds (w : World) : Nat → List String → Except ConditionFault Bool
  | 0, _ | _, [] => .ok false
  | fuel + 1, words =>
    match words with
    | [_, operator, _] =>
      if roleOf? operator = some .binary then readAll w words true else byCount fuel words
    | words => byCount fuel words
where
  /-- Three or four words can be a condition in brackets or a negation. -/
  byCount (fuel : Nat) (words : List String) : Except ConditionFault Bool :=
    if words.length = 3 || words.length = 4 then
      match words with
      | "(" :: rest =>
        if rest.getLast? = some ")" then readAll w rest.dropLast false else readAll w words false
      | "!" :: rest => (holds w fuel rest).map not
      | words => readAll w words false
    else readAll w words false

end Condition

end ScriptedShell.Local.Script
