/-
# Reading rules

A row of tokens as a set of rules.  Reading stops at the first token that cannot stand in its place;
other faults are noted, and reading goes on, so that a complaint can name all of them.
-/
import ScriptedShell.Local.Records.Token

namespace ScriptedShell.Local.Records

open Number

/-- A fault and its line. -/
abbrev PlacedFault := Nat × RuleFault

/-- What the reading of rules goes on with. -/
structure RuleReading where
  left : List Lexeme
  /-- The line of the last token. -/
  line : Nat := 1
  /-- The faults so far, the last one first. -/
  faults : List PlacedFault := []
  kinds : List (String × NameKind) := []
  /-- The variables of the routine that is read, and what is known about them. -/
  own : List String := []
  ownKinds : List (String × NameKind) := []
  isRoutine : Bool := false
  /-- Whether the statements are for a record. -/
  hasRecord : Bool := false
  loops : Nat := 0
  /-- The calls so far: the routine, the number of the arguments, and the line. -/
  calls : List (String × Nat × Nat) := []
  routines : List (String × Routine) := []
  rules : List Rule := []

/-- Reading rules: what cannot be read ends it with all faults. -/
abbrev RuleReader := StateT RuleReading (Except (List PlacedFault))

namespace RuleReader

/-! ## Tokens -/

/-- Whether a token with a fault can be left out. -/
def isExtra : RuleFault → Bool
  | .extra _ | .tooLarge _ => true
  | _ => false

/-- The faults in front that reading goes on after, the last one first, and the other tokens. -/
def dropExtras : List Lexeme → List PlacedFault × List Lexeme
  | l :: rest =>
    match l.token with
    | .fault f =>
      if isExtra f then
        let (faults, rest) := dropExtras rest
        (faults ++ [(l.line, f)], rest)
      else ([], l :: rest)
    | _ => ([], l :: rest)
  | [] => ([], [])

/-- The next token. -/
def peek : RuleReader Token := do
  return match (← get).left with
    | l :: _ => l.token
    | [] => .stop

/-- The token after the next one. -/
def peekSecond : RuleReader Token := do
  return match (← get).left with
    | _ :: l :: _ => l.token
    | _ => .stop

/-- Go to the next token. -/
def skip : RuleReader Unit :=
  modify fun s =>
    match s.left with
    | [] => s
    | l :: rest =>
      let (faults, left) := dropExtras rest
      { s with left, line := l.line, faults := faults ++ s.faults }

/-- Note a fault. -/
def note (f : RuleFault) : RuleReader Unit :=
  modify fun s => { s with faults := (s.line, f) :: s.faults }

/-- The next token cannot stand where it stands. -/
def fail : RuleReader α := do
  let s ← get
  match s.left with
  | [] => throw (s.faults)
  | l :: _ =>
    let fault := match l.token with
      | .fault f => f
      | .stop => if 0 < l.braces then .missing '\x7d' l.shown else .near l.shown
      | .feed | .sign ";" | .sign "\x7d" =>
        if 0 < l.depth then .missing ')' l.shown else .near l.shown
      | _ => .near l.shown
    let further : List PlacedFault := match l.token, s.left.getLast? with
      | .stop, _ => []
      | _, some ⟨.stop, shown, line, _, braces⟩ =>
        if 0 < l.braces && 0 < braces then [(line, .missing '\x7d' shown)] else []
      | _, _ => []
    throw (further ++ (l.line, fault) :: s.faults)

/-- Whether the next token is a sign. -/
def isSign (sign : String) : RuleReader Bool := do
  return match ← peek with
    | .sign s => s = sign
    | _ => false

/-- Whether the next token is a word. -/
def isWord (word : String) : RuleReader Bool := do
  return match ← peek with
    | .word w => w = word
    | _ => false

/-- Go past a sign, which has to be there. -/
def expect (sign : String) : RuleReader Unit := do
  if ← isSign sign then skip else fail

/-- Go past a sign if it is there. -/
def accept (sign : String) : RuleReader Bool := do
  if ← isSign sign then
    skip
    return true
  else return false

/-- Go past line feeds. -/
def skipFeeds : (fuel : Nat) → RuleReader Unit
  | 0 => return
  | fuel + 1 => do
    match ← peek with
    | .feed =>
      skip
      skipFeeds fuel
    | _ => return

/-- The number of tokens that are left. -/
def size : RuleReader Nat := return (← get).left.length

/-! ## Names -/

/-- Where the value of a name is. -/
def slotOf (name : String) : RuleReader Slot := do
  return match (← get).own.findIdx? (· = name) with
    | some i => .own i
    | none => .shared name

/-- Note that a name is used for one value or for a table. -/
def use (kind : NameKind) (name : String) : RuleReader Unit := do
  let s ← get
  let isOwn := s.own.elem name
  match (if isOwn then s.ownKinds else s.kinds).lookup name with
  | some known => if known != kind then note (.misused known isOwn name)
  | none =>
    if isOwn then set { s with ownKinds := (name, kind) :: s.ownKinds }
    else set { s with kinds := (name, kind) :: s.kinds }

/-- A name of a table. -/
def readTable : RuleReader Slot := do
  match ← peek with
  | .name name =>
    skip
    use .table name
    slotOf name
  | _ => fail

/-- A pattern that is written as a text. -/
def patternExpr (s : String) : RuleReader Expr := do
  match patternOf s.toList with
  | .ok r => return .pattern r
  | .error fault =>
    note (.pattern fault.text s)
    return .pattern .empty

/-- An expression that stands for a pattern. -/
def asPattern (e : Expr) : RuleReader Expr :=
  match e with
  | .text s => patternExpr s
  | e => return e

/-! ## Operators -/

/-- The operation of a sign that gives a value to a place. -/
def assignment? : Token → Option (Option Operator)
  | .sign "=" => some none
  | .sign "+=" => some (some .plus)
  | .sign "-=" => some (some .minus)
  | .sign "*=" => some (some .times)
  | .sign "/=" => some (some .over)
  | .sign "%=" => some (some .rest)
  | .sign "^=" => some (some .power)
  | _ => none

/-- The comparison of a sign; where something is printed, a greater sign stands for a file. -/
def comparison? (isOpen : Bool) : Token → Option Comparison
  | .sign "<" => some .less
  | .sign "<=" => some .atMost
  | .sign "==" => some .same
  | .sign "!=" => some .other
  | .sign ">=" => some .atLeast
  | .sign ">" => if isOpen then none else some .more
  | _ => none

/-- The operation of a sign between two sums or products. -/
def operator? (level : Nat) : Token → Option Operator
  | .sign "+" => if level = 7 then some .plus else none
  | .sign "-" => if level = 7 then some .minus else none
  | .sign "*" => if level = 8 then some .times else none
  | .sign "/" => if level = 8 then some .over else none
  | .sign "%" => if level = 8 then some .rest else none
  | _ => none

/-- Whether an operand can begin with a token, when it follows another operand. -/
def beginsOperand : Token → Bool
  | .number _ | .text _ | .pattern _ | .name _ | .routine _ | .function _ | .fieldCount => true
  | .word w => w = "getline"
  | .sign s => ["$", "!", "(", "++", "--"].elem s
  | _ => false

/-- Whether a place can begin with a token. -/
def beginsPlace : Token → Bool
  | .name _ | .fieldCount => true
  | .sign s => s = "$"
  | _ => false

/-- The smallest and the largest number of arguments of a function. -/
def argumentCounts : Function → Nat × Option Nat
  | .substr => (2, some 3)
  | .index | .atan2 => (2, some 2)
  | .sprintf => (1, none)
  | .rand => (0, some 0)
  | .srand | .flush | .length => (0, some 1)
  | .split | .find => (2, some 3)
  | .sub | .gsub => (2, some 3)
  | _ => (1, some 1)

/-! ## Expressions -/

mutual

/-- An expression.  Where something is printed outside of parentheses, `isOpen` holds, and some
signs say where to. -/
def readExpr : (fuel : Nat) → (isOpen : Bool) → RuleReader Expr
  | 0, _ => fail
  | fuel + 1, isOpen => do
    let (condition, _) ← readLevel fuel isOpen 1
    if ← accept "?" then
      let yes ← readExpr fuel isOpen
      expect ":"
      return .choose condition yes (← readExpr fuel isOpen)
    return condition

/-- An expression whose operators bind at least as much as a level asks for, and whether it is a
place that a value can be given to. -/
def readLevel : (fuel : Nat) → (isOpen : Bool) → (level : Nat) → RuleReader (Expr × Bool)
  | 0, _, _ => fail
  | fuel + 1, isOpen, level => do
    match level with
    | 6 =>
      let (first, isPlace) ← readLevel fuel isOpen 7
      match isPlace, assignment? (← peek) with
      | true, some how =>
        skip
        return (.assign first how (← readExpr fuel isOpen), false)
      | _, _ => readMore fuel isOpen level (first, isPlace)
    | 9 =>
      if ← accept "!" then return (.opposite (← readLevel fuel isOpen 9).1, false)
      if ← accept "-" then return (.negative (← readLevel fuel isOpen 9).1, false)
      if ← accept "+" then return (.positive (← readLevel fuel isOpen 9).1, false)
      let first ← readPower fuel
      readMore fuel isOpen 9 first
    | level =>
      let first ← readLevel fuel isOpen (level + 1)
      readMore fuel isOpen level first

/-- What follows an operand on a level. -/
def readMore : (fuel : Nat) → (isOpen : Bool) → (level : Nat) → Expr × Bool →
    RuleReader (Expr × Bool)
  | 0, _, _, _ => fail
  | fuel + 1, isOpen, level, (first, isPlace) => do
    let t ← peek
    let second := fun (build : Expr → Expr → Expr) => do
      skip
      let (e, _) ← readLevel fuel isOpen (level + 1)
      readMore fuel isOpen level (build first e, false)
    match level, t with
    | 1, .sign "||" => second .either
    | 2, .sign "&&" => second .both
    | 3, .word "in" =>
      skip
      let table ← readTable
      readMore fuel isOpen level (.isIn [first] table, false)
    | 4, .sign "~" | 4, .sign "!~" =>
      skip
      let (e, _) ← readLevel fuel isOpen 5
      let isNegated := match t with
        | .sign s => s = "!~"
        | _ => false
      readMore fuel isOpen level (.like isNegated first (← asPattern e), false)
    | 5, t =>
      match comparison? isOpen t with
      | some how => second (.compare how)
      | none => return (first, isPlace)
    | 6, t =>
      if beginsOperand t then
        let (e, _) ← readLevel fuel isOpen 7
        readMore fuel isOpen level (.join first e, false)
      else return (first, isPlace)
    | 9, .sign "|" =>
      match isOpen, ← peekSecond with
      | false, .word "getline" =>
        skip
        skip
        let goal ← readGoal fuel
        readMore fuel isOpen level (.readCommand goal first, false)
      | _, _ => return (first, isPlace)
    | level, t =>
      match operator? level t with
      | some how => second (.calculate how)
      | none => return (first, isPlace)

/-- A power. -/
def readPower : (fuel : Nat) → RuleReader (Expr × Bool)
  | 0 => fail
  | fuel + 1 => do
    let (base, isPlace) ← readPrimary fuel
    let (base, isPlace) ← match isPlace, ← peek with
      | true, .sign "++" =>
        skip
        pure (Expr.step base true false, false)
      | true, .sign "--" =>
        skip
        pure (Expr.step base false false, false)
      | isPlace, _ => pure (base, isPlace)
    if ← accept "^" then return (.calculate .power base (← readExponent fuel), false)
    return (base, isPlace)

/-- What stands after the sign of a power. -/
def readExponent : (fuel : Nat) → RuleReader Expr
  | 0 => fail
  | fuel + 1 => do
    if ← accept "-" then return .negative (← readExponent fuel)
    if ← accept "+" then return .positive (← readExponent fuel)
    if ← accept "!" then return .opposite (← readExponent fuel)
    return (← readPower fuel).1

/-- What stands after the sign of a field. -/
def readFieldNumber : (fuel : Nat) → RuleReader Expr
  | 0 => fail
  | fuel + 1 => do
    if ← accept "-" then return .negative (← readFieldNumber fuel)
    if ← accept "+" then return .positive (← readFieldNumber fuel)
    if ← accept "!" then return .opposite (← readFieldNumber fuel)
    return (← readPrimary fuel).1

/-- A place that a value can be given to. -/
def readPlace : (fuel : Nat) → RuleReader Expr
  | 0 => fail
  | fuel + 1 => do
    match beginsPlace (← peek) with
    | true => return (← readPrimary fuel).1
    | false =>
      if ← isSign "(" then
        let before ← get
        match ← readPrimary fuel with
        | (e, true) => return e
        | _ =>
          set before
          fail
      else fail

/-- A place, if one follows. -/
def readGoal : (fuel : Nat) → RuleReader (Option Expr)
  | 0 => fail
  | fuel + 1 => do
    if beginsPlace (← peek) then return some (← readPlace fuel) else return none

/-- Expressions with commas between them. -/
def readList : (fuel : Nat) → (isOpen : Bool) → RuleReader (List Expr)
  | 0, _ => fail
  | fuel + 1, isOpen => do
    let first ← readExpr fuel isOpen
    if ← accept "," then return first :: (← readList fuel isOpen) else return [first]

/-- Arguments up to the closing parenthesis; a name by itself may be one of a table. -/
def readArguments : (fuel : Nat) → RuleReader (List Expr)
  | 0 => fail
  | fuel + 1 => do
    let first ← match ← peek, ← peekSecond with
      | .name name, .sign "," | .name name, .sign ")" =>
        skip
        pure (Expr.slot (← slotOf name))
      | _, _ => readExpr fuel false
    if ← accept "," then return first :: (← readArguments fuel)
    expect ")"
    return [first]

/-- An operand without an operator, and whether it is a place. -/
def readPrimary : (fuel : Nat) → RuleReader (Expr × Bool)
  | 0 => fail
  | fuel + 1 => do
    match ← peek with
    | .number q =>
      skip
      return (.number q, false)
    | .text s =>
      skip
      return (.text s, false)
    | .pattern s =>
      skip
      return (← patternExpr s, false)
    | .fieldCount =>
      skip
      return (.slot (.shared "NF"), true)
    | .name name =>
      skip
      if ← accept "[" then
        use .table name
        let index ← readList fuel false
        expect "]"
        return (.element (← slotOf name) index, true)
      use .single name
      return (.slot (← slotOf name), true)
    | .routine name =>
      skip
      let line := (← get).line
      expect "("
      let arguments ← if ← accept ")" then pure [] else readArguments fuel
      modify fun s => { s with calls := (name, arguments.length, line) :: s.calls }
      return (.call name arguments, false)
    | .function f =>
      skip
      return (← readFunction fuel f, false)
    | .sign "(" =>
      skip
      let values ← readList fuel false
      expect ")"
      match values with
      | [e] =>
        return (e, match e with
          | .field _ => true
          | _ => false)
      | values =>
        if !(← isWord "in") then fail
        skip
        return (.isIn values (← readTable), false)
    | .sign "$" =>
      skip
      match ← peek with
      | .sign "++" | .sign "--" => return (.field (← readPrimary fuel).1, true)
      | _ => return (.field (← readFieldNumber fuel), true)
    | .sign "++" =>
      skip
      return (.step (← readPlace fuel) true true, false)
    | .sign "--" =>
      skip
      return (.step (← readPlace fuel) false true, false)
    | .word "getline" =>
      skip
      let goal ← readGoal fuel
      if ← accept "<" then return (.readFile goal (← readExponent fuel), false)
      return (.read goal, false)
    | _ => fail

/-- The arguments of a function. -/
def readFunction : (fuel : Nat) → Function → RuleReader Expr
  | 0, _ => fail
  | fuel + 1, f => do
    match f with
    | .length =>
      if !(← accept "(") then return .apply f []
      if ← accept ")" then return .apply f []
      let e ← match ← peek, ← peekSecond with
        | .name name, .sign ")" =>
          skip
          pure (Expr.slot (← slotOf name))
        | _, _ => readExpr fuel false
      expect ")"
      return .apply f [e]
    | .split =>
      expect "("
      let text ← readExpr fuel false
      expect ","
      let table ← readTable
      let separator ← if ← accept "," then pure [← readExpr fuel false] else pure []
      expect ")"
      return .apply f (text :: .slot table :: separator)
    | .sub | .gsub =>
      expect "("
      let pattern ← asPattern (← readExpr fuel false)
      expect ","
      let new ← readExpr fuel false
      let goal ← if ← accept "," then readPlace fuel else pure (.field (.number Quantity.zero))
      expect ")"
      return .apply f [pattern, new, goal]
    | .find =>
      expect "("
      let text ← readExpr fuel false
      expect ","
      let pattern ← asPattern (← readExpr fuel false)
      expect ")"
      return .apply f [text, pattern]
    | f =>
      expect "("
      let arguments ← if ← isSign ")" then pure [] else readList fuel false
      expect ")"
      let (least, most) := argumentCounts f
      if arguments.length < least || most.any (· < arguments.length) then
        note (.wrongNumber (Token.nameOf f))
      return .apply f arguments

end

/-! ## Statements -/

/-- Go past the end of a statement. -/
def endStatement : RuleReader Unit := do
  match ← peek with
  | .sign ";" | .feed => skip
  | .sign "\x7d" => return
  | _ => fail

/-- Whether the next token ends what is printed. -/
def endsPrinted : RuleReader Bool := do
  return match ← peek with
    | .feed | .stop => true
    | .sign s => [";", "\x7d", ">", ">>", "|"].elem s
    | _ => false

/-- The values that are printed. -/
def readPrinted (fuel : Nat) : RuleReader (List Expr) := do
  if ← endsPrinted then return []
  if ← isSign "(" then
    let before ← get
    skip
    let values ← if ← isSign ")" then pure [] else readList fuel false
    expect ")"
    if ← endsPrinted then return values
    set before
  readList fuel true

/-- Where something is printed to. -/
def readOutward (fuel : Nat) : RuleReader (Option (Outward × Expr)) := do
  if ← accept ">" then return some (.file, ← readExpr fuel false)
  if ← accept ">>" then return some (.fileEnd, ← readExpr fuel false)
  if ← accept "|" then return some (.command, ← readExpr fuel false)
  return none

/-- An expression, unless a sign comes at once. -/
def readOptional (fuel : Nat) (sign : String) : RuleReader (Option Expr) := do
  if ← isSign sign then return none else return some (← readExpr fuel false)

/-- An expression, unless the statement ends at once. -/
def readRest (fuel : Nat) : RuleReader (Option Expr) := do
  match ← peek with
  | .feed | .stop | .sign ";" | .sign "\x7d" => return none
  | _ => return some (← readExpr fuel false)

/-- A condition in parentheses. -/
def readCondition (fuel : Nat) : RuleReader Expr := do
  expect "("
  let condition ← readExpr fuel false
  expect ")"
  skipFeeds (← size)
  return condition

/-- Read something that stands inside a loop. -/
def inLoop (act : RuleReader α) : RuleReader α := do
  modify fun s => { s with loops := s.loops + 1 }
  let result ← act
  modify fun s => { s with loops := s.loops - 1 }
  return result

mutual

/-- A statement. -/
def readStatement : (fuel : Nat) → RuleReader Statement
  | 0 => fail
  | fuel + 1 => do
    let simple := fun (s : Statement) => do
      endStatement
      return s
    match ← peek with
    | .sign "\x7b" => return .block (← readBlock fuel)
    | .sign ";" | .feed =>
      skip
      return .block []
    | .word word =>
      if word != "getline" then skip
      match word with
      | "if" =>
        let condition ← readCondition fuel
        let yes ← readStatement fuel
        if ← isWord "else" then
          skip
          return .choose condition yes (some (← readStatement fuel))
        return .choose condition yes none
      | "while" =>
        let condition ← readCondition fuel
        return .loop condition (← inLoop (readStatement fuel))
      | "do" =>
        let body ← inLoop (readStatement fuel)
        if !(← isWord "while") then fail
        skip
        expect "("
        let condition ← readExpr fuel false
        expect ")"
        simple (.turn body condition)
      | "for" =>
        expect "("
        match (← get).left.map Lexeme.token with
        | .name goal :: .word "in" :: .name table :: _ =>
          for _ in [0, 1, 2] do skip
          expect ")"
          use .single goal
          use .table table
          skipFeeds (← size)
          let body ← inLoop (readStatement fuel)
          return .each (← slotOf goal) (← slotOf table) body
        | _ =>
          let first ← readOptional fuel ";"
          expect ";"
          let condition ← readOptional fuel ";"
          expect ";"
          let next ← readOptional fuel ")"
          expect ")"
          skipFeeds (← size)
          return .count first condition next (← inLoop (readStatement fuel))
      | "print" =>
        let values ← readPrinted fuel
        simple (.print values (← readOutward fuel))
      | "printf" =>
        let values ← readPrinted fuel
        if values.isEmpty then note (.noArguments "printf")
        simple (.printf values (← readOutward fuel))
      | "next" =>
        if !(← get).hasRecord then note (.improper word)
        simple .nextRecord
      | "nextfile" =>
        if !(← get).hasRecord then note (.improper word)
        simple .nextFile
      | "exit" => simple (.exit (← readRest fuel))
      | "return" =>
        if !(← get).isRoutine then note .outsideRoutine
        simple (.giveBack (← readRest fuel))
      | "break" =>
        if (← get).loops = 0 then note (.outsideLoop word)
        simple .leave
      | "continue" =>
        if (← get).loops = 0 then note (.outsideLoop word)
        simple .goOn
      | "delete" =>
        let table ← readTable
        if ← accept "[" then
          let index ← readList fuel false
          expect "]"
          simple (.erase table index)
        else simple (.erase table [])
      | "getline" => simple (.evaluate (← readExpr fuel false))
      | _ =>
        modify fun s => { s with left := ⟨.word word, word, s.line, 0, 0⟩ :: s.left }
        fail
    | _ => simple (.evaluate (← readExpr fuel false))

/-- Statements up to the closing brace. -/
def readStatements : (fuel : Nat) → RuleReader (List Statement)
  | 0 => fail
  | fuel + 1 => do
    if ← accept "\x7d" then return []
    let first ← readStatement fuel
    return first :: (← readStatements fuel)

/-- Statements in braces. -/
def readBlock : (fuel : Nat) → RuleReader (List Statement)
  | 0 => fail
  | fuel + 1 => do
    expect "\x7b"
    readStatements fuel

end

/-! ## Rules -/

/-- Add a rule. -/
def addRule (occasion : Occasion) (body : Option (List Statement)) : RuleReader Unit :=
  modify fun s => { s with rules := s.rules ++ [⟨occasion, body⟩] }

/-- The statements for an occasion. -/
def readBody (fuel : Nat) (hasRecord : Bool) : RuleReader (List Statement) := do
  modify fun s => { s with hasRecord }
  readBlock fuel

/-- The names of the first variables of a routine. -/
def readParameters (name : String) : (fuel : Nat) → RuleReader (List String)
  | 0 => fail
  | fuel + 1 => do
    match ← peek with
    | .name p =>
      skip
      if ← accept "," then
        let more ← readParameters name fuel
        if more.elem p then note (.doubled p)
        return p :: more
      expect ")"
      return [p]
    | .fieldCount =>
      skip
      expect ")"
      return ["NF"]
    | .routine p =>
      if p = name then note .ownName
      fail
    | _ => fail

/-- A routine. -/
def readRoutine (fuel : Nat) : RuleReader Unit := do
  match ← peek with
  | .routine name =>
    skip
    if ((← get).routines.lookup name).isSome then note (.definedAgain name)
    expect "("
    let parameters ← if ← accept ")" then pure [] else readParameters name fuel
    skipFeeds (← size)
    modify fun s =>
      { s with own := parameters, ownKinds := [], isRoutine := true, hasRecord := false }
    let body ← readBlock fuel
    modify fun s =>
      { s with
        own := [], ownKinds := [], isRoutine := false
        routines := (name, ⟨parameters.length, body⟩) :: s.routines }
  | _ => fail

/-- A rule or a routine. -/
def readItem (fuel : Nat) : RuleReader Unit := do
  match ← peek with
  | .word "BEGIN" =>
    skip
    addRule .start (some (← readBody fuel false))
  | .word "END" =>
    skip
    addRule .finish (some (← readBody fuel false))
  | .word "function" =>
    skip
    readRoutine fuel
  | .sign "\x7b" => addRule (.record none) (some (← readBody fuel true))
  | _ =>
    let first ← readExpr fuel false
    let occasion ← if ← accept "," then pure (.between first (← readExpr fuel false))
      else pure (.record (some first))
    match ← peek with
    | .sign "\x7b" => addRule occasion (some (← readBody fuel true))
    | .sign ";" | .feed =>
      skip
      addRule occasion none
    | _ => fail

/-- Rules up to the end. -/
def readItems : (fuel : Nat) → RuleReader Unit
  | 0 => fail
  | fuel + 1 => do
    match ← peek with
    | .stop => return
    | _ =>
      readItem fuel
      readItems fuel

/-- Note calls that fit no routine. -/
def checkCalls : RuleReader Unit := do
  let s ← get
  for (name, count, line) in s.calls.reverse do
    match s.routines.lookup name with
    | some r =>
      if r.parameters < count then
        modify fun s => { s with faults := (line, .tooMany name) :: s.faults }
    | none =>
      let last := (s.left.getLast?.map Lexeme.line).getD line
      let isKnown := (← get).faults.any (·.2 = .neverDefined name)
      if s.faults.isEmpty && !isKnown then
        modify fun s => { s with faults := (last, .neverDefined name) :: s.faults }

/-- The kinds of the names that are known from the beginning. -/
def firstKinds : List (String × NameKind) :=
  [("ENVIRON", .table), ("ARGV", .table), ("FS", .single), ("RS", .single), ("OFS", .single),
    ("ORS", .single), ("NR", .single), ("FNR", .single), ("FILENAME", .single),
    ("SUBSEP", .single), ("RSTART", .single), ("RLENGTH", .single), ("ARGC", .single),
    ("CONVFMT", .single), ("OFMT", .single)]

end RuleReader

open RuleReader in
/-- The set of rules that a text writes, or its faults with their lines. -/
def readRules (cs : List Char) : Except (List PlacedFault) RuleSet := do
  let tokens := lexemes (cs.length + 2) {} cs
  let (faults, left) := dropExtras tokens
  let fuel := 20 * tokens.length + 50
  let act := do
    readItems fuel
    checkCalls
  match act.run { left, faults, kinds := firstKinds } with
  | .error faults => throw faults.reverse
  | .ok ((), s) =>
    if s.faults.isEmpty then return { rules := s.rules, routines := s.routines }
    else throw s.faults.reverse

end ScriptedShell.Local.Records
