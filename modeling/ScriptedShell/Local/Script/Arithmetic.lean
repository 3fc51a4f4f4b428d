/-
# Arithmetic

The expressions that stand for numbers in scripts: whole numbers of 64 bits, variables, the usual
operators, choices and assignments.
-/
import ScriptedShell.Text.Digits

namespace ScriptedShell.Local.Script

open Text

/-- Why an expression has no value. -/
inductive ArithmeticFault where
  | expected (what : String)
  | divisionByZero
  /-- The value of a variable is no number. -/
  | badNumber (text : String)
  deriving Repr, DecidableEq

/-- The wording of a fault in an expression. -/
def ArithmeticFault.message (expression : String) : ArithmeticFault → String
  | expected what => "arithmetic expression: expecting " ++ what ++ ": \"" ++ expression ++ "\""
  | divisionByZero => "arithmetic expression: division by zero: \"" ++ expression ++ "\""
  | badNumber text => "Illegal number: " ++ text

namespace Arithmetic

/-! ## Numbers -/

/-- A whole number as one of 64 bits. -/
def wrap (n : Int) : Int := Int.bmod n (Nat.pow 2 64)

/-- The largest number. -/
def largest : Int := Nat.pow 2 63 - 1

/-- The smallest number. -/
def smallest : Int := -(Nat.pow 2 63)

/-- The value of a digit in some base. -/
def digitOf? (base : Nat) (c : Char) : Option Nat :=
  let n :=
    if c.isDigit then c.toNat - '0'.toNat
    else if 'a' ≤ c && c ≤ 'z' then c.toNat - 'a'.toNat + 10
    else if 'A' ≤ c && c ≤ 'Z' then c.toNat - 'A'.toNat + 10
    else base
  if n < base then some n else none

/-- The number that digits at the front of a text write, and what follows them. -/
def digitsAt (base : Nat) : Nat → List Char → Nat × List Char
  | n, [] => (n, [])
  | n, c :: cs =>
    match digitOf? base c with
    | some d => digitsAt base (base * n + d) cs
    | none => (n, c :: cs)

/-- The number at the front of a text, in the base that its first characters say, and what follows
it. -/
def numeralAt (cs : List Char) : Nat × List Char :=
  let isHex := fun (c : Char) => (digitOf? 16 c).isSome
  match cs with
  | '0' :: x :: d :: rest =>
    if (x = 'x' || x = 'X') && isHex d then digitsAt 16 0 (d :: rest) else digitsAt 8 0 cs
  | '0' :: _ => digitsAt 8 0 cs
  | _ => digitsAt 10 0 cs

/-- Whether a character is a blank to the reader of numbers. -/
def isSpace (c : Char) : Bool := c = ' ' || (9 ≤ c.toNat && c.toNat ≤ 13)

/-- A number at the front of a text with its sign, and what follows it: `none` if there are no
digits. -/
def signedAt? (numeral : List Char → Nat × List Char) (cs : List Char) :
    Option (Int × List Char) :=
  let cs := cs.dropWhile isSpace
  let (isNegative, cs) := match cs with
    | '-' :: cs => (true, cs)
    | '+' :: cs => (false, cs)
    | cs => (false, cs)
  if (cs.head?.map Char.isDigit) = some true then
    let (n, rest) := numeral cs
    some (if isNegative then -(n : Int) else n, rest)
  else none

/-- The number that a whole text writes, if it is one of 64 bits. -/
def number? (numeral : List Char → Nat × List Char) (text : String) : Option Int :=
  match signedAt? numeral text.toList with
  | some (n, rest) => if rest.all isSpace && smallest ≤ n && n ≤ largest then some n else none
  | none => none

/-- The number that a text writes in any base; a text of blanks is zero. -/
def valueNumber? (text : String) : Option Int :=
  if text.toList.all isSpace then some 0 else number? numeralAt text

/-- The number that a text writes in decimal digits. -/
def decimal? (text : String) : Option Int := number? (digitsAt 10 0) text

/-! ## Tokens -/

/-- A token of an expression. -/
inductive Token where
  | number (n : Int)
  | variable (name : String)
  | symbol (s : String)
  | bad
  | done
  deriving Repr, DecidableEq

/-- The symbols, longer ones first. -/
def symbols : List String :=
  ["<<=", ">>=", "<<", ">>", "<=", ">=", "==", "!=", "&&", "||", "+=", "-=", "*=", "/=", "%=", "&=",
    "^=", "|=", "+", "-", "*", "/", "%", "<", ">", "&", "^", "|", "!", "~", "(", ")", "?", ":", "="]

/-- The token at the front of a text, and what follows it. -/
def tokenAt (cs : List Char) : Token × List Char :=
  let cs := cs.dropWhile fun c => c = ' ' || c = '\t' || c = '\n'
  match cs with
  | [] => (.done, [])
  | c :: rest =>
    if c.isDigit then
      let (n, rest) := numeralAt cs
      (.number (min n largest), rest)
    else if c.isAlpha || c = '_' then
      let (name, rest) := cs.span fun c => c.isAlphanum || c = '_'
      (.variable (String.ofList name), rest)
    else match symbols.find? fun s => s.toList.isPrefixOf cs with
      | some s => (.symbol s, cs.drop s.length)
      | none => (.bad, rest)

/-- An expression while it is read: the token that is next, the text after it, the values of
variables, and the assignments made, the last one first. -/
structure Reading where
  token : Token
  rest : List Char
  value : String → Option String
  assigned : List (String × Int) := []

/-- What reads an expression. -/
abbrev Reader := ExceptT ArithmeticFault (StateM Reading)

/-- Go on to the next token. -/
def advance : Reader Unit := modify fun r =>
  let (token, rest) := tokenAt r.rest
  { r with token, rest }

/-- The number that a variable holds. -/
def lookup (name : String) : Reader Int := do
  let r ← get
  match r.assigned.lookup name with
  | some n => return n
  | none =>
    let text := (r.value name).getD ""
    match valueNumber? text with
    | some n => return n
    | none => throw (.badNumber text)

/-! ## Operators -/

/-- How tightly an operator of two numbers binds; smaller ones bind tighter. -/
def levelOf? : Token → Option Nat
  | .symbol s =>
    if ["*", "/", "%"].elem s then some 0
    else if ["+", "-"].elem s then some 1
    else if ["<<", ">>"].elem s then some 2
    else if ["<", "<=", ">", ">="].elem s then some 3
    else if ["==", "!="].elem s then some 4
    else if s = "&" then some 5
    else if s = "^" then some 6
    else if s = "|" then some 7
    else none
  | _ => none

/-- The number that stands for truth. -/
def truth (b : Bool) : Int := if b then 1 else 0

/-- The value of an operation of two numbers. -/
def operate (symbol : String) (a b : Int) : Except ArithmeticFault Int :=
  let bits := fun (n : Int) => (n % Nat.pow 2 64).toNat
  match symbol with
  | "*" => .ok (wrap (a * b))
  | "/" => if b = 0 then .error .divisionByZero else .ok (wrap (a.tdiv b))
  | "%" => if b = 0 then .error .divisionByZero else .ok (a.tmod b)
  | "+" => .ok (wrap (a + b))
  | "-" => .ok (wrap (a - b))
  | "<<" => .ok (wrap (a * Nat.pow 2 (bits b % 64)))
  | ">>" => .ok (Int.fdiv a (Nat.pow 2 (bits b % 64)))
  | "<" => .ok (truth (a < b))
  | "<=" => .ok (truth (a ≤ b))
  | ">" => .ok (truth (b < a))
  | ">=" => .ok (truth (b ≤ a))
  | "==" => .ok (truth (a = b))
  | "!=" => .ok (truth (a != b))
  | "&" => .ok (wrap (Nat.land (bits a) (bits b)))
  | "^" => .ok (wrap (Nat.xor (bits a) (bits b)))
  | _ => .ok (wrap (Nat.lor (bits a) (bits b)))

/-- The operation that an assignment makes before it assigns, if its symbol is one: `none` inside for
the plain one. -/
def assignment? : Token → Option (Option String)
  | .symbol "=" => some none
  | .symbol s =>
    if ["<<=", ">>=", "+=", "-=", "*=", "/=", "%=", "&=", "^=", "|="].elem s then
      some (some (String.ofList s.toList.dropLast))
    else none
  | _ => none

/-- Read a symbol that must come next. -/
def expect (symbol what : String) : Reader Unit := do
  if (← get).token = .symbol symbol then advance else throw (.expected what)

mutual

/-- The value of an expression.  When it is `skipped`, nothing is looked up, assigned or divided. -/
def expression (fuel : Nat) (skipped : Bool) : Reader Int :=
  match fuel with
  | 0 => throw (.expected "primary")
  | fuel + 1 => do
    let r ← get
    match r.token with
    | .variable name =>
      advance
      match assignment? (← get).token with
      | some operation =>
        advance
        let n ← expression fuel skipped
        if skipped then return n
        let n ← match operation with
          | none => pure n
          | some symbol => ofExcept (operate symbol (← lookup name) n)
        modify fun r => { r with assigned := (name, n) :: r.assigned }
        return n
      | none =>
        set { r with assigned := (← get).assigned }
        choice fuel skipped
    | _ => choice fuel skipped

/-- The value of a choice between two expressions, or of a condition. -/
def choice (fuel : Nat) (skipped : Bool) : Reader Int :=
  match fuel with
  | 0 => throw (.expected "primary")
  | fuel + 1 => do
    let a ← disjunction fuel skipped
    if (← get).token = .symbol "?" then
      advance
      let b ← expression fuel (skipped || a = 0)
      expect ":" "':'"
      let c ← choice fuel (skipped || a != 0)
      return if a != 0 then b else c
    else return a

/-- Whether one of some expressions is true; a single one keeps its value. -/
def disjunction (fuel : Nat) (skipped : Bool) : Reader Int :=
  match fuel with
  | 0 => throw (.expected "primary")
  | fuel + 1 => do
    let a ← conjunction fuel skipped
    if (← get).token = .symbol "||" then
      advance
      let b ← disjunction fuel (skipped || a != 0)
      return truth (a != 0 || b != 0)
    else return a

/-- Whether all of some expressions are true; a single one keeps its value. -/
def conjunction (fuel : Nat) (skipped : Bool) : Reader Int :=
  match fuel with
  | 0 => throw (.expected "primary")
  | fuel + 1 => do
    let a ← operations fuel skipped 8
    if (← get).token = .symbol "&&" then
      advance
      let b ← conjunction fuel (skipped || a = 0)
      return truth (a != 0 && b != 0)
    else return a

/-- The value of operations that bind tighter than a level. -/
def operations (fuel : Nat) (skipped : Bool) (level : Nat) : Reader Int :=
  match fuel with
  | 0 => throw (.expected "primary")
  | fuel + 1 => do moreOperations fuel skipped level (← primary fuel skipped)

/-- The value of a number with the operations that follow it. -/
def moreOperations (fuel : Nat) (skipped : Bool) (level : Nat) (a : Int) : Reader Int :=
  match fuel with
  | 0 => throw (.expected "primary")
  | fuel + 1 => do
    match (← get).token, levelOf? (← get).token with
    | .symbol s, some own =>
      if own < level then
        advance
        let b ← operations fuel skipped own
        let n ← if skipped then pure b else ofExcept (operate s a b)
        moreOperations fuel skipped level n
      else return a
    | _, _ => return a

/-- The value of a number, a variable, an expression in brackets or one with a sign. -/
def primary (fuel : Nat) (skipped : Bool) : Reader Int :=
  match fuel with
  | 0 => throw (.expected "primary")
  | fuel + 1 => do
    match (← get).token with
    | .number n => advance; return n
    | .variable name =>
      let n ← if skipped then pure 0 else lookup name
      advance
      return n
    | .symbol "(" =>
      advance
      let n ← expression fuel skipped
      expect ")" "')'"
      return n
    | .symbol "+" => advance; primary fuel skipped
    | .symbol "-" => advance; return wrap (-(← primary fuel skipped))
    | .symbol "!" => advance; return truth ((← primary fuel skipped) = 0)
    | .symbol "~" => advance; return wrap (-1 - (← primary fuel skipped))
    | _ => throw (.expected "primary")

end

/-- The value of the expression that a text writes, and the assignments that it makes. -/
def evaluate (value : String → Option String) (text : String) :
    Except ArithmeticFault (Int × List (String × Int)) :=
  let cs := text.toList
  let (token, rest) := tokenAt cs
  let read : Reader Int := do
    let n ← expression (8 * (cs.length + 2)) false
    if (← get).token != .done then throw (.expected "EOF")
    return n
  match read { token, rest, value } with
  | (.ok n, r) => .ok (n, r.assigned.reverse)
  | (.error fault, _) => .error fault

end Arithmetic

end ScriptedShell.Local.Script
