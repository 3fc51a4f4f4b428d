/-
# Reading regular expressions

The two written forms of regular expressions.  In the basic form the signs for groups, repetitions
and alternatives have a backslash before them; in the extended form they stand by themselves, and
with a backslash they lose their meaning.
-/
import ScriptedShell.Regex.Basic

namespace ScriptedShell

open Text

/-- What is wrong with a written expression. -/
inductive RegexFault where
  | openBracket
  | openGroup
  | openBrace
  | closeGroup
  | braces
  | rangeEnd
  | repetition
  | reference
  | backslash
  | className
  /-- A name of a character that there is not. -/
  | charName
  | tooBig
  | malformed
  /-- The name of a class without a second pair of brackets. -/
  | classOutside
  deriving Repr, DecidableEq

/-- The wording of a fault. -/
def RegexFault.text : RegexFault → String
  | openBracket => "Unmatched [, [^, [:, [., or [="
  | openGroup => "Unmatched ( or \\("
  | openBrace => "Unmatched \\\x7b"
  | closeGroup => "Unmatched ) or \\)"
  | braces => "Invalid content of \\\x7b\\\x7d"
  | rangeEnd => "Invalid range end"
  | repetition => "Invalid preceding regular expression"
  | reference => "Invalid back reference"
  | backslash => "Trailing backslash"
  | className => "Invalid character class name"
  | charName => "Invalid collation character"
  | tooBig => "Regular expression too big"
  | malformed => "Invalid regular expression"
  | classOutside => "character class syntax is [[:space:]], not [:space:]"

namespace Regex

/-- A written form of expressions. -/
structure Grammar where
  isExtended : Bool := false
  /-- Whether signs in places where they have no meaning are faults. -/
  isStrict : Bool := false
  /-- Whether a repetition of a repetition is a fault. -/
  refusesDoubled : Bool := false
  /-- Whether the class of letters can be written with one pair of brackets only. -/
  refusesOutside : Bool := false
  deriving Repr

/-- What the reading of an expression goes on with: what is left, the number of the groups so far,
those that are closed, and the signs for repetitions that stand after nothing, the last one first. -/
structure Reading where
  rest : List Char
  groups : Nat := 0
  closed : List Nat := []
  lonely : List Char := []
  deriving Repr

/-- Reading a part of an expression. -/
abbrev Reader := StateT Reading (Except RegexFault)

/-! ## Brackets -/

/-- The text up to a sign and a closing bracket, and what follows. -/
def untilClosing (sign : Char) : List Char → Option (List Char × List Char)
  | c :: ']' :: rest =>
    if c = sign then some ([], rest)
    else (untilClosing sign (']' :: rest)).map fun (name, rest) => (c :: name, rest)
  | c :: rest => (untilClosing sign rest).map fun (name, rest) => (c :: name, rest)
  | [] => none

/-- A single character inside brackets, or one that is named there, and what follows. -/
def bracketChar : List Char → Except RegexFault (Char × List Char)
  | '[' :: '.' :: rest => match untilClosing '.' rest with
    | some ([c], rest) => .ok (c, rest)
    | some _ => .error .charName
    | none => .error .openBracket
  | '[' :: '=' :: rest => match untilClosing '=' rest with
    | some ([c], rest) => .ok (c, rest)
    | some _ => .error .charName
    | none => .error .openBracket
  | c :: rest => .ok (c, rest)
  | [] => .error .openBracket

/-- The members of brackets up to the closing one, and what follows. -/
def bracketMembers : (fuel : Nat) → (isFirst : Bool) → List Char →
    Except RegexFault (List CharMember × List Char)
  | 0, _, _ | _, _, [] => .error .openBracket
  | fuel + 1, isFirst, c :: cs =>
    if c = ']' && !isFirst then .ok ([], cs)
    else match c, cs with
      | '[', ':' :: rest => do
        match untilClosing ':' rest with
        | none => throw .openBracket
        | some (name, rest) =>
          match CharClass.ofName? (String.ofList name) with
          | none => throw .className
          | some n =>
            let (more, rest) ← bracketMembers fuel false rest
            return (.named n :: more, rest)
      | _, _ => do
        let (low, rest) ← bracketChar (c :: cs)
        match rest with
        | '-' :: ']' :: _ =>
          let (more, rest) ← bracketMembers fuel false rest
          return (.range low low :: more, rest)
        | '-' :: after => do
          if after.isEmpty then throw .openBracket
          let (high, rest) ← bracketChar after
          if high < low then throw .rangeEnd
          match rest with
          | '-' :: d :: _ => if d != ']' then throw .rangeEnd
          | _ => pure ()
          let (more, rest) ← bracketMembers fuel false rest
          return (.range low high :: more, rest)
        | rest =>
          let (more, rest) ← bracketMembers fuel false rest
          return (.range low low :: more, rest)

/-- Whether the text of brackets is the name of a class with its colons. -/
def isOutside (inside : List Char) : Bool :=
  let name := inside.takeWhile (· != ']')
  3 ≤ name.length && name.head? = some ':' && name.getLast? = some ':' && !name.elem '[' &&
    (inside.drop name.length).head? = some ']' && (name.drop 1).dropLast.any (· != ':')

/-- The set of characters after an opening bracket. -/
def bracketSet (g : Grammar) (cs : List Char) : Except RegexFault (CharSet × List Char) := do
  let isInverted := cs.head? = some '^'
  let inside := if isInverted then cs.drop 1 else cs
  if inside.isEmpty then throw .malformed
  if g.refusesOutside && isOutside inside then throw .classOutside
  let (members, rest) ← bracketMembers (inside.length + 1) true inside
  return (⟨members, isInverted⟩, rest)

/-! ## Repetitions -/

/-- The most repetitions that can be asked for. -/
def maxRepeats : Nat := 32767

/-- The numbers between braces, and what follows them. -/
def interval (g : Grammar) (cs : List Char) :
    Except RegexFault ((Nat × Option Nat) × List Char) := do
  let number := fun (ds : List Char) => (String.ofList ds).toNat?
  let (low, rest) := cs.span Char.isDigit
  let close := fun (rest : List Char) => match g.isExtended, rest with
    | true, '\x7d' :: rest => Except.ok rest
    | false, '\\' :: '\x7d' :: rest => Except.ok rest
    | _, [] => Except.error RegexFault.openBrace
    | _, _ => Except.error RegexFault.braces
  let (least, most, rest) ← match rest with
    | ',' :: rest => do
      let (high, rest) := rest.span Char.isDigit
      pure ((number low).getD 0, number high, ← close rest)
    | rest => do
      let rest ← close rest
      match number low with
      | some n => pure (n, some n, rest)
      | none => throw .braces
  if most.any (· < least) then throw .braces
  if maxRepeats < least || most.any (maxRepeats < ·) then throw .tooBig
  return ((least, most), rest)

/-- The repetition at the front of a text, and what follows it. -/
def repetition (g : Grammar) (cs : List Char) :
    Except RegexFault (Option ((Nat × Option Nat) × List Char)) := do
  match g.isExtended, cs with
  | _, '*' :: rest => return some ((0, none), rest)
  | true, '+' :: rest | false, '\\' :: '+' :: rest => return some ((1, none), rest)
  | true, '?' :: rest | false, '\\' :: '?' :: rest => return some ((0, some 1), rest)
  | false, '\\' :: '\x7b' :: rest => return some (← interval g rest)
  | true, '\x7b' :: rest =>
    match interval g rest with
    | .ok found => return some found
    | .error .tooBig => throw .tooBig
    | .error fault =>
      if g.isStrict then throw fault
      else match fault, rest.takeWhile fun c => c.isDigit || c = ',' with
        | .braces, front =>
          if (rest.drop front.length).head? = some '\x7d' && !front.isEmpty then throw fault
          else return none
        | _, _ => return none
  | _, _ => return none

/-! ## Signs -/

/-- Whether a row of parts ends here: at the end, before an alternative or before the end of a
group. -/
def endsRow (g : Grammar) (depth : Nat) : List Char → Bool
  | [] => true
  | c :: rest =>
    if g.isExtended then c = '|' || (c = ')' && (0 < depth || g.isStrict))
    else match c, rest with
      | '\\', d :: _ => d = '|' || d = ')'
      | '\n', _ => false
      | _, _ => false

/-- The edge that a letter after a backslash stands for. -/
def edgeOf? (c : Char) : Option Edge :=
  if c = '<' then some .wordStart
  else if c = '>' then some .wordEnd
  else if c = 'b' then some .word
  else if c = 'B' then some .noWord
  else if c.toNat = 96 then some .textStart
  else if c = '\'' then some .textEnd
  else none

/-- The set that a letter after a backslash stands for. -/
def setOf? : Char → Option CharSet
  | 'w' => some (.word false)
  | 'W' => some (.word true)
  | 's' => some (.gap false)
  | 'S' => some (.gap true)
  | _ => none

/-- The part that a character after a backslash stands for. -/
def escaped (c : Char) : Reader Regex := do
  match edgeOf? c, setOf? c with
  | some e, _ => return .edge e
  | _, some set => return .oneOf set
  | none, none =>
    if c.isDigit && c != '0' then
      let n := c.toNat - '0'.toNat
      if (← get).closed.elem n then return .again n else throw .reference
    else return .char c

/-! ## Parts -/

mutual

/-- Alternatives, up to the end of the group that they are in. -/
def readEither (g : Grammar) : (fuel depth : Nat) → Reader Regex
  | 0, _ => throw .malformed
  | fuel + 1, depth => do
    let first ← readRow g fuel depth true
    match g.isExtended, (← get).rest with
    | true, '|' :: rest | false, '\\' :: '|' :: rest =>
      modify fun s => { s with rest }
      return .either first (← readEither g fuel depth)
    | _, _ => return first

/-- Parts one after the other. -/
def readRow (g : Grammar) : (fuel depth : Nat) → (isFront : Bool) → Reader Regex
  | 0, _, _ => throw .malformed
  | fuel + 1, depth, isFront => do
    let rest := (← get).rest
    if endsRow g depth rest then return .empty
    let part ← readPart g fuel depth isFront
    let isAnchor := !g.isExtended && part = .edge .lineStart && isFront
    let part ← if isAnchor then pure part else readRepeats g fuel part false
    let more ← readRow g fuel depth isAnchor
    return if more = .empty then part else .cat part more

/-- A part with the repetitions after it. -/
def readRepeats (g : Grammar) : (fuel : Nat) → Regex → (isRepeated : Bool) → Reader Regex
  | 0, _, _ => throw .malformed
  | fuel + 1, part, isRepeated => do
    match ← repetition g (← get).rest with
    | none => return part
    | some ((least, most), rest) =>
      if isRepeated && g.refusesDoubled then throw .repetition
      if g.isExtended && g.isStrict && part = .edge .lineStart then throw .repetition
      modify fun s => { s with rest }
      readRepeats g fuel (.repeated part least most) true

/-- One part: a character, a set, an edge or a group. -/
def readPart (g : Grammar) : (fuel depth : Nat) → (isFront : Bool) → Reader Regex
  | 0, _, _ => throw .malformed
  | fuel + 1, depth, isFront => do
    let s ← get
    let go := fun (rest : List Char) => modify fun s => { s with rest }
    let openGroup := fun (rest : List Char) => do
      let n := s.groups + 1
      set { s with rest, groups := n }
      let inner ← readEither g fuel (depth + 1)
      let s ← get
      match g.isExtended, s.rest with
      | true, ')' :: rest | false, '\\' :: ')' :: rest =>
        set { s with rest, closed := n :: s.closed }
        return Regex.group n inner
      | _, _ => throw .openGroup
    match s.rest with
    | [] => return .empty
    | '\\' :: [] => throw .backslash
    | '\\' :: c :: rest =>
      if !g.isExtended && c = '(' then openGroup rest
      else if !g.isExtended && c = '\x7b' && g.isStrict then throw .repetition
      else
        go rest
        escaped c
    | '.' :: rest =>
      go rest
      return .oneOf .all
    | '[' :: rest =>
      let (set, rest) ← bracketSet g rest
      go rest
      return .oneOf set
    | '^' :: rest =>
      go rest
      return if g.isExtended || isFront then .edge .lineStart else .char '^'
    | '$' :: rest =>
      go rest
      return if g.isExtended || endsRow g depth rest then .edge .lineEnd else .char '$'
    | c :: rest =>
      if g.isExtended && c = '(' then openGroup rest
      else if g.isExtended && "*+?".toList.elem c then
        if g.isStrict then throw .repetition
        set { s with rest, lonely := c :: s.lonely }
        return .empty
      else if g.isExtended && c = '\x7b' && isFront then
        if g.isStrict then throw .repetition
        let isInterval := (interval g rest).isOk
        set { s with rest, lonely := if isInterval then c :: s.lonely else s.lonely }
        return .empty
      else
        go rest
        return .char c

end

/-- The expression that a text writes, with the signs for repetitions that stand after nothing. -/
def readNoting (g : Grammar) (cs : List Char) : Except RegexFault (Regex × List Char) := do
  let (r, s) ← (readEither g (4 * cs.length + 8) 0).run { rest := cs }
  if s.rest.isEmpty then return (r, s.lonely.reverse) else throw .closeGroup

/-- The expression that a text writes. -/
def read (g : Grammar) (cs : List Char) : Except RegexFault Regex := do
  return (← readNoting g cs).1

end Regex

end ScriptedShell
