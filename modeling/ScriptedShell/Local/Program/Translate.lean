/-
# Translation of characters

Sets of characters, written as ranges, classes and repeats, and the program that replaces, deletes or
squeezes the characters of one set.
-/
import ScriptedShell.Local.Program.Print
import ScriptedShell.Local.Script.Pattern

namespace ScriptedShell.Local.Program

open Act Text

/-- A part of a set. -/
inductive Part where
  | one (c : Char)
  | range (low high : Char)
  | named (name : String)
  | same (c : Char)
  /-- A character many times; without a number as often as is needed. -/
  | repeated (c : Char) (count : Option Nat)
  deriving Repr, DecidableEq

/-- The characters of a set with escapes resolved; each with whether it was escaped. -/
def unescaped : Nat → List Char → List (Char × Bool)
  | 0, _ | _, [] => []
  | _ + 1, ['\\'] => [('\\', false)]
  | fuel + 1, '\\' :: c :: cs =>
    let digits := digitsIn 8 3 (c :: cs)
    if !digits.isEmpty then
      let digits := if 255 < valueIn 8 digits then digits.dropLast else digits
      (Char.ofNat (valueIn 8 digits), true) :: unescaped fuel ((c :: cs).drop digits.length)
    else match Script.letterByte? c with
      | some b => (b, true) :: unescaped fuel cs
      | none => (c, true) :: unescaped fuel cs
  | fuel + 1, c :: cs => (c, false) :: unescaped fuel cs

/-- The text of escaped characters. -/
def plainOf (cs : List (Char × Bool)) : List Char := cs.map (·.1)

/-- The text up to a closing mark and bracket, and what follows. -/
def upTo (mark : Char) : List (Char × Bool) → Option (List (Char × Bool) × List (Char × Bool))
  | a :: b :: rest =>
    if a = (mark, false) && b = (']', false) then some ([], rest)
    else (upTo mark (b :: rest)).map fun (inner, rest) => (a :: inner, rest)
  | _ => none

/-- The parts of a set, or what is wrong with it. -/
def partsOf : Nat → List (Char × Bool) → Except String (List Part)
  | 0, _ | _, [] => .ok []
  | fuel + 1, (c, isEscaped) :: cs => do
    let single := do
      match cs with
      | ('-', false) :: (d, _) :: rest =>
        if d < c then
          throw ("range-endpoints of '" ++ String.ofList [c, '-', d] ++
            "' are in reverse collating sequence order")
        return .range c d :: (← partsOf fuel rest)
      | _ => return .one c :: (← partsOf fuel cs)
    if c = '[' && !isEscaped then
      match cs with
      | (':', false) :: inner =>
        match upTo ':' inner with
        | some (name, rest) =>
          let name := String.ofList (plainOf name)
          if (Script.classOf? name).isNone then
            throw ("invalid character class " ++ Named.quoted name)
          return .named name :: (← partsOf fuel rest)
        | none => single
      | ('=', false) :: inner =>
        match upTo '=' inner with
        | some ([(d, _)], rest) => return .same d :: (← partsOf fuel rest)
        | some ([], _) => throw "missing equivalence class character '[==]'"
        | some (text, _) =>
          throw (String.ofList (plainOf text) ++
            ": equivalence class operand must be a single character")
        | none => single
      | (d, _) :: ('*', false) :: inner =>
        match inner.span fun p => p.1.isDigit && !p.2 with
        | (digits, (']', false) :: rest) =>
          let digits := plainOf digits
          let base := if digits.head? = some '0' then 8 else 10
          let n := valueIn base digits
          return .repeated d (if n = 0 then none else some n) :: (← partsOf fuel rest)
        | _ => single
      | _ => single
    else single

/-- The parts of a set. -/
def readSet (text : String) : Act (List Part) := do
  let cs := unescaped (text.length + 1) text.toList
  match partsOf (cs.length + 1) cs with
  | .ok parts => return parts
  | .error fault =>
    complain fault
    quit 1

/-- All bytes. -/
def allBytes : List Char := (List.range 256).map Char.ofNat

/-- The characters of a part; `room` is how many are needed. -/
def Part.characters (room : Nat) : Part → List Char
  | one c | same c => [c]
  | range low high =>
    (List.range (high.toNat + 1 - low.toNat)).map fun i => Char.ofNat (low.toNat + i)
  | named name => allBytes.filter fun c => ((Script.classOf? name).map fun has => has c).getD false
  | repeated c count => List.replicate (count.getD room) c

/-- The characters of a set; a repeat without a number fills it up to a size. -/
def setCharacters (size : Nat) (parts : List Part) : List Char :=
  let isOpen := fun (p : Part) => match p with
    | .repeated _ none => true
    | _ => false
  let fixed := ((parts.filter fun p => !isOpen p).flatMap (Part.characters 0)).length
  parts.flatMap (Part.characters (size - fixed))

/-- A text without repeats of the characters that satisfy `p`. -/
def squeeze (p : Char → Bool) : Option Char → List Char → List Char
  | _, [] => []
  | before, c :: cs =>
    if before = some c && p c then squeeze p before cs else c :: squeeze p (some c) cs

/-- The pairs of characters that two sets make; classes of letters change their case. -/
def pairsOf (first second : List Part) (isInverted truncates : Bool) :
    Except String (List (Char × Char)) := do
  let isCase := fun (p : Part) => p = .named "upper" || p = .named "lower"
  let isClass := fun (p : Part) => match p with
    | .named _ => true
    | _ => false
  if second.any fun p => isClass p && !isCase p then
    throw ("when translating, the only character classes that may appear in\n" ++
      "string2 are 'upper' and 'lower'")
  let source := setCharacters 0 first
  let source := if isInverted then allBytes.filter fun c => !source.elem c else source
  let target := setCharacters source.length second
  if second.isEmpty && !truncates then
    throw "when not truncating set1, string2 must be non-empty"
  if truncates then return source.zip target
  else
    let last := target.getLast?.getD ' '
    return source.zip (target ++ List.replicate (source.length - target.length) last)

/-- Replace, delete or squeeze characters. -/
def tr (_ : Runner) : Program := do
  let known := flags [('c', "complement"), ('C', ""), ('d', "delete"), ('s', "squeeze-repeats"),
    ('t', "truncate-set1")]
  let (o, sets) ← options known 1 true
  let deletes := o.has 'd'
  let squeezes := o.has 's'
  let isInverted := o.has 'c' || o.has 'C'
  let least := if deletes = squeezes then 2 else 1
  let most := if deletes && !squeezes then 1 else 2
  match sets with
  | [] => missingOperand 1
  | first :: others =>
    if sets.length < least then
      complain ("missing operand after " ++ Named.quoted first)
      complainRaw (if squeezes && deletes then
          "Two strings must be given when both deleting and squeezing repeats.\n"
        else "Two strings must be given when translating.\n")
      seeHelp 1
    if most < sets.length then
      complain ("extra operand " ++ Named.quoted (sets.getD most ""))
      if sets.length = 2 then
        complainRaw "Only one string may be given when deleting without squeezing repeats.\n"
      seeHelp 1
    let source ← readSet first
    let target ← match others with
      | [] => pure none
      | second :: _ => do pure (some (← readSet second))
    let members := setCharacters 0 source
    let inSource := fun (c : Char) => members.elem c != isInverted
    let text := match ← readStream 0 with
      | .ok text => text
      | .error _ => []
    match deletes, squeezes, target with
    | true, false, _ => printChars (text.filter fun c => !inSource c)
    | true, true, some target =>
      let members := setCharacters 0 target
      printChars (squeeze (fun c => members.elem c) none (text.filter fun c => !inSource c))
    | false, true, none => printChars (squeeze inSource none text)
    | _, _, target =>
      match pairsOf source (target.getD []) isInverted (o.has 't') with
      | .error fault =>
        complain fault
        quit 1
      | .ok pairs =>
        let table := (pairs.foldl (fun (t : Array Char) (a, b) => t.setIfInBounds a.toNat b)
          allBytes.toArray)
        let changed := text.map fun c => table.getD c.toNat c
        if squeezes then
          let second := (pairs.map (·.2))
          printChars (squeeze (fun c => second.elem c) none changed)
        else printChars changed
    return 0

end ScriptedShell.Local.Program
