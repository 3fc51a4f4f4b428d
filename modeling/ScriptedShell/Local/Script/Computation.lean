/-
# Computation

The expressions of the extended language: those of the standard one with powers, lists, numbers in
any base, steps by one, items of arrays, and variables whose values are expressions themselves.
-/
import ScriptedShell.Local.Script.Arithmetic
import ScriptedShell.Local.Script.Items

namespace ScriptedShell.Local.Script

/-- Why an expression has no value. -/
inductive ComputationFault where
  | operandExpected
  | badOperator
  | leftOver
  | noVariable
  | colonExpected
  | expressionExpected
  | openBracket
  | divisionByZero
  | negativePower
  | tooGreatForBase
  | badBase
  | badIndex (name : String)
  | tooDeep
  deriving Repr, DecidableEq

/-- The wording of a fault. -/
def ComputationFault.text : ComputationFault → String
  | operandExpected => "syntax error: operand expected"
  | badOperator => "syntax error: invalid arithmetic operator"
  | leftOver => "syntax error in expression"
  | noVariable => "attempted assignment to non-variable"
  | colonExpected => "`:' expected for conditional expression"
  | expressionExpected => "expression expected"
  | openBracket => "missing `)'"
  | divisionByZero => "division by 0"
  | negativePower => "exponent less than 0"
  | tooGreatForBase => "value too great for base"
  | badBase => "invalid arithmetic base"
  | badIndex _ => "bad array subscript"
  | tooDeep => "expression recursion level exceeded"

/-- A fault with the text where it shows and the whole expression. -/
structure ComputationFailure where
  fault : ComputationFault
  shown : String
  expression : String
  deriving Repr, DecidableEq

/-- The wording of a failure. -/
def ComputationFailure.message (f : ComputationFailure) : String :=
  match f.fault with
  | .badIndex name => name ++ ": bad array subscript"
  | fault =>
    let expression := String.ofList (f.expression.toList.dropWhile fun c => c = ' ' || c = '\t')
    expression ++ ": " ++ fault.text ++ " (error token is \"" ++ f.shown ++ "\")"

namespace Computation

open Arithmetic (operate levelOf? truth wrap)

/-- A variable, or the item of one that an index names. -/
structure Slot where
  name : String
  index : Option String := none
  deriving Repr, DecidableEq

/-- What an expression sees of the variables. -/
structure Scope where
  value : String → Option String
  items : String → Option Items

/-- A token of an expression. -/
inductive Token where
  | number (n : Int)
  | slot (s : Slot)
  | symbol (s : String)
  | bad
  | done
  deriving Repr, DecidableEq

/-- The symbols, longer ones first. -/
def symbols : List String :=
  ["<<=", ">>=", "**", "++", "--", "<<", ">>", "<=", ">=", "==", "!=", "&&", "||", "+=", "-=", "*=",
    "/=", "%=", "&=", "^=", "|=", "+", "-", "*", "/", "%", "<", ">", "&", "^", "|", "!", "~", "(",
    ")", "?", ":", "=", ","]

/-- The text in brackets at the front of a text, after the opening one, and what follows. -/
def indexText (depth : Nat) : (done : List Char) → List Char → Option (List Char × List Char)
  | _, [] => none
  | done, c :: cs =>
    if c = '[' then indexText (depth + 1) (c :: done) cs
    else if c = ']' then
      match depth with
      | 0 => some (done.reverse, cs)
      | depth + 1 => indexText depth (c :: done) cs
    else indexText depth (c :: done) cs

/-- The value of a digit in a base: letters of both sizes are different from base 37 on. -/
def digitIn (base : Nat) (c : Char) : Nat :=
  if c.isDigit then c.toNat - '0'.toNat
  else if 'a' ≤ c && c ≤ 'z' then c.toNat - 'a'.toNat + 10
  else if 'A' ≤ c && c ≤ 'Z' then c.toNat - 'A'.toNat + (if base ≤ 36 then 10 else 36)
  else if c = '@' then 62
  else 63

/-- The number that digits write in a base. -/
def digitsIn (base : Nat) (digits : List Char) : Except ComputationFault Int := do
  let n ← digits.foldlM (fun (n : Nat) c =>
    let d := digitIn base c
    if d < base then .ok (base * n + d) else .error .tooGreatForBase) 0
  return wrap n

/-- The number that a text of digits, letters and one mark for a base writes. -/
def numberOf (cs : List Char) : Except ComputationFault Int :=
  match cs.span (· != '#') with
  | (base, _ :: digits) => do
    let n := Text.digitsValue base
    if n < 2 || 64 < n || base.head? = some '0' then throw .badBase
    digitsIn n digits
  | (_, []) =>
    match cs with
    | '0' :: x :: digits =>
      if x = 'x' || x = 'X' then digitsIn 16 digits else digitsIn 8 (x :: digits)
    | cs => digitsIn 10 cs

/-- The token at the front of a text, the text from it on, and what follows it. -/
def tokenAt (cs : List Char) : Except ComputationFault Token × List Char × List Char :=
  let cs := cs.dropWhile fun c => c = ' ' || c = '\t' || c = '\n'
  match cs with
  | [] => (.ok .done, [], [])
  | c :: rest =>
    if c.isDigit then
      let (digits, rest) := cs.span fun c => c.isAlphanum || c = '#' || c = '@' || c = '_'
      ((numberOf digits).map .number, cs, rest)
    else if c.isAlpha || c = '_' then
      let (name, rest) := cs.span fun c => c.isAlphanum || c = '_'
      let name := String.ofList name
      match rest with
      | '[' :: inner =>
        match indexText 0 [] inner with
        | some (index, rest) => (.ok (.slot ⟨name, some (String.ofList index)⟩), cs, rest)
        | none => (.error (.badIndex name), cs, rest)
      | rest => (.ok (.slot ⟨name, none⟩), cs, rest)
    else match symbols.find? fun s => s.toList.isPrefixOf cs with
      | some s => (.ok (.symbol s), cs, cs.drop s.length)
      | none => (.ok .bad, cs, rest)

/-- An expression while it is computed. -/
structure Computing where
  expression : String
  token : Token := .done
  /-- The text from the token on, and the text after it. -/
  start : List Char := []
  rest : List Char
  /-- The variable that was read just before the token. -/
  last : Option Slot := none
  /-- The values given to variables, the last one first; indexes are keys. -/
  assigned : List (Slot × Int) := []

/-- What computes an expression. -/
abbrev Computer := ExceptT ComputationFailure (StateM Computing)

/-- Say what is wrong at the current token. -/
def wrong (fault : ComputationFault) : Computer α := do
  let c ← get
  throw ⟨fault, String.ofList c.start, c.expression⟩

/-- Go on to the next token. -/
def advance : Computer Unit := do
  let c ← get
  let last := match c.token with
    | .slot s => some s
    | _ => none
  match tokenAt c.rest with
  | (.error fault, start, rest) =>
    let passed := c.expression.length - rest.length
    set { c with
      start := start.take (start.length - rest.length)
      expression := String.ofList (c.expression.toList.take passed) }
    wrong fault
  | (.ok .done, _, _) => set { c with token := .done, rest := [], last }
  | (.ok token, start, rest) => set { c with token, start, rest, last }

/-- The operation that an assignment makes before it assigns. -/
def assignment? : Token → Option (Option String)
  | .symbol s => Arithmetic.assignment? (.symbol s)
  | _ => none

/-- How tightly an operator of two numbers binds. -/
def level? : Token → Option (String × Nat)
  | .symbol s => (levelOf? (.symbol s)).map fun n => (s, n)
  | _ => none

/-- The most expressions that are computed inside each other. -/
def maxDepth : Nat := 1024

/-- How many rounds of the computer a text needs at most. -/
def roundsFor (text : String) : Nat := 20 * (text.length + 2)

mutual

/-- Compute a whole text. -/
def whole (scope : Scope) (fuel : Nat) (text : String) : Computer Int :=
  match fuel with
  | 0 => wrong .tooDeep
  | fuel + 1 => do
    let before ← get
    set { before with expression := text, rest := text.toList, token := .done, start := [] }
    advance
    let n ← if (← get).token = .done then pure 0
      else do
        let n ← list scope fuel false
        if (← get).token != .done then wrong .leftOver
        pure n
    modify fun c => { before with assigned := c.assigned }
    return n

/-- The key that an index names. -/
def keyOf (scope : Scope) (fuel : Nat) (s : Slot) : Computer (Option String) :=
  match fuel with
  | 0 => wrong .tooDeep
  | fuel + 1 => do
    match s.index with
    | none => return none
    | some index =>
      match scope.items s.name with
      | some items =>
        if items.isNamed then return some index
        else match items.key? (← whole scope fuel index) with
          | some key => return some key
          | none => wrong (.badIndex s.name)
      | none => return some (toString (← whole scope fuel index))

/-- The number that a variable or an item holds. -/
def lookup (scope : Scope) (fuel : Nat) (s : Slot) : Computer Int :=
  match fuel with
  | 0 => wrong .tooDeep
  | fuel + 1 => do
    let key ← keyOf scope fuel s
    match (← get).assigned.lookup ⟨s.name, key⟩ with
    | some n => return n
    | none =>
      let text := match key with
        | none => scope.value s.name
        | some key =>
          match scope.items s.name with
          | some items => items.get? key
          | none => if key = "0" then scope.value s.name else none
      match text with
      | none => return 0
      | some text =>
        match Arithmetic.number? (Arithmetic.digitsAt 10 0) text with
        | some n => if text.toList.head? = some '0' then whole scope fuel text else return n
        | none => whole scope fuel text

/-- Give a number to a variable or an item. -/
def store (scope : Scope) (fuel : Nat) (s : Slot) (n : Int) : Computer Unit :=
  match fuel with
  | 0 => wrong .tooDeep
  | fuel + 1 => do
    let key ← keyOf scope fuel s
    modify fun c => { c with assigned := (⟨s.name, key⟩, n) :: c.assigned }

/-- Expressions of which the last one has the value. -/
def list (scope : Scope) (fuel : Nat) (skipped : Bool) : Computer Int :=
  match fuel with
  | 0 => wrong .tooDeep
  | fuel + 1 => do
    let n ← assigning scope fuel skipped
    if (← get).token = .symbol "," then
      advance
      list scope fuel skipped
    else return n

/-- An assignment, or a choice. -/
def assigning (scope : Scope) (fuel : Nat) (skipped : Bool) : Computer Int :=
  match fuel with
  | 0 => wrong .tooDeep
  | fuel + 1 => do
    let a ← choice scope fuel skipped
    let c ← get
    match assignment? c.token, c.last with
    | none, _ => return a
    | some _, none => wrong .noVariable
    | some operation, some slot =>
      advance
      let b ← assigning scope fuel skipped
      let n ← match operation with
        | none => pure b
        | some symbol => if skipped then pure b else operation' symbol a b
      if !skipped then store scope fuel slot n
      return n

/-- A choice between two expressions, or a condition. -/
def choice (scope : Scope) (fuel : Nat) (skipped : Bool) : Computer Int :=
  match fuel with
  | 0 => wrong .tooDeep
  | fuel + 1 => do
    let a ← disjunction scope fuel skipped
    if (← get).token = .symbol "?" then
      advance
      if (← get).token = .done || (← get).token = .symbol ":" then wrong .expressionExpected
      let b ← list scope fuel (skipped || a = 0)
      if (← get).token != .symbol ":" then wrong .colonExpected
      advance
      if (← get).token = .done then wrong .expressionExpected
      let c ← choice scope fuel (skipped || a != 0)
      return if a != 0 then b else c
    else return a

/-- Whether one of some expressions is true; a single one keeps its value. -/
def disjunction (scope : Scope) (fuel : Nat) (skipped : Bool) : Computer Int :=
  match fuel with
  | 0 => wrong .tooDeep
  | fuel + 1 => do
    let a ← conjunction scope fuel skipped
    if (← get).token = .symbol "||" then
      advance
      let b ← disjunction scope fuel (skipped || a != 0)
      return truth (a != 0 || b != 0)
    else return a

/-- Whether all of some expressions are true; a single one keeps its value. -/
def conjunction (scope : Scope) (fuel : Nat) (skipped : Bool) : Computer Int :=
  match fuel with
  | 0 => wrong .tooDeep
  | fuel + 1 => do
    let a ← operations scope fuel skipped 8
    if (← get).token = .symbol "&&" then
      advance
      let b ← conjunction scope fuel (skipped || a = 0)
      return truth (a != 0 && b != 0)
    else return a

/-- Operations that bind tighter than a level. -/
def operations (scope : Scope) (fuel : Nat) (skipped : Bool) (level : Nat) : Computer Int :=
  match fuel with
  | 0 => wrong .tooDeep
  | fuel + 1 => do moreOperations scope fuel skipped level (← power scope fuel skipped)

/-- A number with the operations that follow it. -/
def moreOperations (scope : Scope) (fuel : Nat) (skipped : Bool) (level : Nat) (a : Int) :
    Computer Int :=
  match fuel with
  | 0 => wrong .tooDeep
  | fuel + 1 => do
    match level? (← get).token with
    | some (symbol, own) =>
      if own < level then
        let back := (← get).rest.dropWhile fun c => c = ' ' || c = '\t'
        advance
        let b ← operations scope fuel skipped own
        if b = 0 && !skipped && (symbol = "/" || symbol = "%") then
          modify fun c => { c with start := back }
        let n ← if skipped then pure b else operation' symbol a b
        moreOperations scope fuel skipped level n
      else return a
    | none => return a

/-- A number, or a power of one. -/
def power (scope : Scope) (fuel : Nat) (skipped : Bool) : Computer Int :=
  match fuel with
  | 0 => wrong .tooDeep
  | fuel + 1 => do
    let a ← signed scope fuel skipped
    if (← get).token = .symbol "**" then
      advance
      let b ← power scope fuel skipped
      if b < 0 then
        if skipped then return 0 else wrong .negativePower
      return if skipped then 0 else powerOf a b.toNat
    else return a
where
  /-- A power of a number of 64 bits. -/
  powerOf (a : Int) (n : Nat) : Int :=
    let square := fun (r : Int × Int) (isSet : Bool) =>
      (if isSet then wrap (r.1 * r.2) else r.1, wrap (r.2 * r.2))
    ((List.range 64).foldl (fun r i => square r (n.testBit i)) (1, a)).1

/-- A number with signs and steps before it. -/
def signed (scope : Scope) (fuel : Nat) (skipped : Bool) : Computer Int :=
  match fuel with
  | 0 => wrong .tooDeep
  | fuel + 1 => do
    match (← get).token with
    | .symbol "!" => advance; return truth ((← signed scope fuel skipped) = 0)
    | .symbol "~" => advance; return wrap (-1 - (← signed scope fuel skipped))
    | .symbol "+" => advance; signed scope fuel skipped
    | .symbol "-" => advance; return wrap (-(← signed scope fuel skipped))
    | .symbol s =>
      if s = "++" || s = "--" then
        let step : Int := if s = "++" then 1 else -1
        advance
        match (← get).token with
        | .slot slot =>
          let n ← if skipped then pure 0 else lookup scope fuel slot
          if !skipped then store scope fuel slot (wrap (n + step))
          advance
          modify fun c => { c with last := none }
          return wrap (n + step)
        | _ => signed scope fuel skipped
      else atom scope fuel skipped
    | _ => atom scope fuel skipped

/-- A number, a variable with a step after it, or an expression in brackets. -/
def atom (scope : Scope) (fuel : Nat) (skipped : Bool) : Computer Int :=
  match fuel with
  | 0 => wrong .tooDeep
  | fuel + 1 => do
    match (← get).token with
    | .number n => advance; return n
    | .slot slot =>
      advance
      let token := (← get).token
      if skipped || token = .symbol "=" then return 0
      let n ← lookup scope fuel slot
      if token = .symbol "++" || token = .symbol "--" then
        advance
        store scope fuel slot (wrap (if token = .symbol "++" then n + 1 else n - 1))
      return n
    | .symbol "(" =>
      advance
      let n ← list scope fuel skipped
      if (← get).token != .symbol ")" then wrong .openBracket
      advance
      return n
    | .bad => wrong (if (← get).last.isSome then .badOperator else .operandExpected)
    | _ => wrong .operandExpected

/-- The value of an operation of two numbers. -/
def operation' (symbol : String) (a b : Int) : Computer Int :=
  match operate symbol a b with
  | .ok n => return n
  | .error _ => wrong .divisionByZero

end

/-- The value of the expression that a text writes, and the values that it gives to variables. -/
def evaluate (scope : Scope) (text : String) :
    Except ComputationFailure (Int × List (Slot × Int)) :=
  match whole scope (maxDepth + roundsFor text) text { expression := text, rest := [] } with
  | (.ok n, c) => .ok (n, c.assigned.reverse)
  | (.error failure, _) => .error failure

end Computation

end ScriptedShell.Local.Script
