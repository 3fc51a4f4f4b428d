/-
# Patterns in rules

The written form of the patterns that records are compared with.  A backslash before a letter or
digits stands for a control character, also inside brackets, and every part of a row of alternatives
has to be there.
-/
import ScriptedShell.Regex.Basic

namespace ScriptedShell.Local.Records

open Text

/-! ## Characters after a backslash -/

/-- The value of digits in a base at the front of a text, at most a number of them, and what
follows. -/
def codeAt (base : Nat) : (most : Nat) → List Char → Nat × List Char
  | most + 1, c :: cs =>
    let digit := if c.isDigit then c.toNat - '0'.toNat
      else if 'a' ≤ c.toLower && c.toLower ≤ 'f' then c.toLower.toNat - 'a'.toNat + 10
      else base
    if digit < base then
      let (n, rest) := codeAt base most cs
      (digit * Nat.pow base (cs.length - rest.length) + n, rest)
    else (0, c :: cs)
  | _, cs => (0, cs)

/-- The control character that a letter or digits after a backslash stand for, and what follows. -/
def controlAt? (cs : List Char) : Option (Char × List Char) :=
  let byte := fun (n : Nat) => Char.ofNat (n % 256)
  match cs with
  | 'n' :: rest => some ('\n', rest)
  | 't' :: rest => some ('\t', rest)
  | 'r' :: rest => some ('\r', rest)
  | 'f' :: rest => some ('\x0c', rest)
  | 'b' :: rest => some ('\x08', rest)
  | 'a' :: rest => some ('\x07', rest)
  | 'v' :: rest => some ('\x0b', rest)
  | 'x' :: digits =>
    let (n, rest) := codeAt 16 2 digits
    if rest.length < digits.length then some (byte n, rest) else none
  | digits =>
    let (n, rest) := codeAt 8 3 digits
    if rest.length < digits.length then some (byte n, rest) else none

/-! ## Patterns -/

/-- What is wrong with a pattern. -/
inductive PatternFault where
  | group
  | operand
  | brackets
  | interval
  | edge
  deriving Repr, DecidableEq

/-- The wording of a fault. -/
def PatternFault.text : PatternFault → String
  | group => "missing ')'"
  | operand => "missing operand"
  | brackets => "bad class -- [], [^] or ["
  | interval => "bad interval expression"
  | edge => "syntax error ^* or ^+"

/-- Reading a part of a pattern. -/
abbrev PatternReader := StateT (List Char) (Except PatternFault)

/-- The character at the front of a pattern, where a backslash gives it no meaning of its own. -/
def patternChar : List Char → Option (Char × List Char)
  | '\\' :: rest =>
    match controlAt? rest, rest with
    | some found, _ => some found
    | none, c :: rest => some (c, rest)
    | none, [] => some ('\\', [])
  | c :: rest => some (c, rest)
  | [] => none

/-- The members of brackets up to the closing one, and what follows. -/
def patternMembers : (fuel : Nat) → (isFirst : Bool) → List Char →
    Except PatternFault (List CharMember × List Char)
  | 0, _, _ => .error .brackets
  | fuel + 1, isFirst, cs => do
    match cs with
    | '[' :: ':' :: rest =>
      let (name, after) := rest.span (· != ':')
      match CharClass.ofName? (String.ofList name), after with
      | some c, ':' :: ']' :: rest =>
        let (more, rest) ← patternMembers fuel false rest
        return (.named c :: more, rest)
      | _, _ => throw .brackets
    | ']' :: rest =>
      if isFirst then
        let (more, rest) ← patternMembers fuel false rest
        return (.range ']' ']' :: more, rest)
      else return ([], rest)
    | cs =>
      let some (low, rest) := patternChar cs | throw .brackets
      match rest with
      | '-' :: after =>
        if after.head? = some ']' then
          let (more, rest) ← patternMembers fuel false rest
          return (.range low low :: more, rest)
        let some (high, after) := patternChar after | throw .brackets
        if low ≤ high then
          let (more, rest) ← patternMembers fuel false after
          return (.range low high :: more, rest)
        let (more, rest) ← patternMembers fuel false rest
        return (.range low low :: more, rest)
      | rest =>
        let (more, rest) ← patternMembers fuel false rest
        return (.range low low :: more, rest)

/-- The numbers of an interval after its opening brace, and what follows it; `none` if the brace
stands for itself. -/
def intervalAt (cs : List Char) : Except PatternFault (Option ((Nat × Option Nat) × List Char)) :=
  let (inside, after) := cs.span (· != '\x7d')
  let number := fun (ds : List Char) => (String.ofList ds).toNat?
  match after with
  | [] => .ok none
  | _ :: rest =>
    if inside.isEmpty then .error .interval
    else match inside.span Char.isDigit with
      | (low, []) => .ok ((number low).map fun n => ((n, some n), rest))
      | (low, [',']) => .ok (some (((number low).getD 0, none), rest))
      | (low, ',' :: high) =>
        if high.all Char.isDigit then
          let least := (number low).getD 0
          let most := number high
          if most.any (· < least) then .error .interval else .ok (some ((least, most), rest))
        else .ok none
      | _ => .ok none

/-- The repetition at the front of a pattern, and what follows it. -/
def patternRepetition (cs : List Char) :
    Except PatternFault (Option ((Nat × Option Nat) × List Char)) :=
  match cs with
  | '*' :: rest => .ok (some ((0, none), rest))
  | '+' :: rest => .ok (some ((1, none), rest))
  | '?' :: rest => .ok (some ((0, some 1), rest))
  | '\x7b' :: rest => intervalAt rest
  | _ => .ok none

mutual

/-- Alternatives, up to the end of the group that they are in; a group that follows a part may have
empty ones. -/
def readAlternatives : (fuel depth : Nat) → (canBeEmpty : Bool) → PatternReader Regex
  | 0, _, _ => throw .group
  | fuel + 1, depth, canBeEmpty => do
    let first ← readParts fuel depth true canBeEmpty
    match ← get with
    | '|' :: rest =>
      set rest
      return .either first (← readAlternatives fuel depth canBeEmpty)
    | _ => return first

/-- Parts one after the other. -/
def readParts : (fuel depth : Nat) → (isFirst canBeEmpty : Bool) → PatternReader Regex
  | 0, _, _, _ => throw .group
  | fuel + 1, depth, isFirst, canBeEmpty => do
    match ← get with
    | [] =>
      if isFirst then throw (if 0 < depth then .group else .operand)
      return .empty
    | c :: _ =>
      if c = '|' || (c = ')' && 0 < depth) then
        if isFirst && !canBeEmpty then throw .operand
        return .empty
      let part ← readPiece fuel depth (canBeEmpty || !isFirst)
      let part ← readTimes fuel part
      let more ← readParts fuel depth false canBeEmpty
      return if more = .empty then part else .cat part more

/-- A part with the repetitions after it. -/
def readTimes : (fuel : Nat) → Regex → PatternReader Regex
  | 0, _ => throw .group
  | fuel + 1, part => do
    match ← patternRepetition (← get) with
    | none => return part
    | some ((least, most), rest) =>
      if part = .edge .textStart then throw .edge
      set rest
      readTimes fuel (.repeated part least most)

/-- One part: a character, a set, an edge or a group. -/
def readPiece : (fuel depth : Nat) → (canBeEmpty : Bool) → PatternReader Regex
  | 0, _, _ => throw .group
  | fuel + 1, depth, canBeEmpty => do
    match ← get with
    | '(' :: rest =>
      set rest
      let inner ← readAlternatives fuel (depth + 1) canBeEmpty
      match ← get with
      | ')' :: rest =>
        set rest
        return inner
      | _ => throw .group
    | '.' :: rest =>
      set rest
      return .oneOf .all
    | '^' :: rest =>
      set rest
      return .edge .textStart
    | '$' :: rest =>
      set rest
      return .edge .textEnd
    | '[' :: rest =>
      let isInverted := rest.head? = some '^'
      let inside := if isInverted then rest.drop 1 else rest
      let (members, rest) ← patternMembers (inside.length + 1) true inside
      set rest
      return .oneOf ⟨members, isInverted⟩
    | cs =>
      match cs, patternChar cs with
      | c :: _, some (d, rest) =>
        if "*+?".toList.elem c then throw .operand
        set rest
        return .char d
      | _, _ => return .empty

end

/-- The pattern that a text writes. -/
def patternOf (cs : List Char) : Except PatternFault Regex :=
  if cs.isEmpty then .ok .empty
  else (·.1) <$> (readAlternatives (4 * cs.length + 8) 0 false).run cs

end ScriptedShell.Local.Records
