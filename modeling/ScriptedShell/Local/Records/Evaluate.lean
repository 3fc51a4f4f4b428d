/-
# Carrying out rules

What expressions and statements do, and how the rules are carried out for all records.  A number
bounds how deep expressions, calls and the turns of loops can follow each other.
-/
import ScriptedShell.Local.Records.Reader
import ScriptedShell.Local.Records.State

namespace ScriptedShell.Local.Records

open Number Text

/-- What rules are carried out with. -/
structure Rules where
  set : RuleSet
  run : Runner

/-- A place that a value can be given to. -/
inductive Spot where
  | slot (s : Slot)
  | element (table : Nat) (key : Key)
  | field (n : Int)

/-- A number as a whole number of 32 bits. -/
def whole (q : Quantity) : Int := q.clamped (-(Nat.pow 2 31)) (Nat.pow 2 31 - 1)

/-! ## Functions of texts -/

/-- What is put in for a stretch: an ampersand stands for the stretch itself unless an odd number of
backslashes is before it. -/
def putIn (found : List Char) : (slashes : Nat) → List Char → List Char
  | slashes, '\\' :: cs => putIn found (slashes + 1) cs
  | slashes, '&' :: cs =>
    List.replicate (slashes / 2) '\\' ++ (if slashes % 2 = 0 then found else ['&']) ++
      putIn found 0 cs
  | slashes, c :: cs => List.replicate slashes '\\' ++ c :: putIn found 0 cs
  | slashes, [] => List.replicate slashes '\\'

/-- A text from a place on with stretches replaced, and how many have been. -/
def replaceFrom (r : Regex) (new : List Char) (isGlobal : Bool) (s : Regex.Subject) : (fuel : Nat) →
    (place : Nat) → (before : Option Nat) → List Char × Nat
  | 0, place, _ => (s.between place s.text.size, 0)
  | fuel + 1, place, before =>
    let size := s.text.size
    match if size < place then none else r.search? s place with
    | none => (s.between place size, 0)
    | some f =>
      let front := s.between place f.start
      if f.start = f.stop && before = some f.start then
        let (rest, n) := replaceFrom r new isGlobal s fuel (f.stop + 1) none
        (front ++ s.between f.start (f.stop + 1) ++ rest, n)
      else
        let text := front ++ putIn (s.between f.start f.stop) 0 new
        if !isGlobal then (text ++ s.between f.stop size, 1)
        else
          let (next, skipped) := if f.start = f.stop then
              (f.stop + 1, s.between f.stop (f.stop + 1))
            else (f.stop, [])
          let (rest, n) := replaceFrom r new isGlobal s fuel next (some f.stop)
          (text ++ skipped ++ rest, n + 1)

/-- A part of a text: it begins at a place and has a length, both without their fractions. -/
def partOf (s : String) (start : Quantity) (length : Option Quantity) : String :=
  let first := whole start
  let count := match length with
    | some n => whole n
    | none => Nat.pow 2 31
  let count := if first < 1 then count - first else count
  let first := max first 1
  if count ≤ 0 then "" else String.ofList ((s.toList.drop (first - 1).toNat).take count.toNat)

/-- The place of a text in another one, counted from one; zero if it is not there. -/
def placeIn (cs part : List Char) : Nat :=
  if part.isEmpty then if cs.isEmpty then 0 else 1
  else go 1 cs
where
  /-- The place of the part in a text that begins at a place. -/
  go (n : Nat) : List Char → Nat
    | [] => 0
    | c :: cs => if part.isPrefixOf (c :: cs) then n else go (n + 1) cs

/-- The function of one number that a name stands for. -/
def calculated : Function → Quantity → Quantity
  | .sin => Quantity.through Float.sin
  | .cos => Quantity.through Float.cos
  | .exp => Quantity.through Float.exp
  | .log => Quantity.through Float.log
  | .sqrt => Quantity.through Float.sqrt
  | _ => Quantity.truncated

/-- The result of an operator. -/
def Operator.apply : Operator → Quantity → Quantity → Quantity
  | .plus => Quantity.add
  | .minus => Quantity.sub
  | .times => Quantity.mul
  | .over => Quantity.div
  | .rest => Quantity.rest
  | .power => Quantity.pow

/-- Whether a comparison holds. -/
def Comparison.holds : Comparison → Ordering → Bool
  | .less, o => o = .lt
  | .atMost, o => o != .gt
  | .same, o => o = .eq
  | .other, o => o != .eq
  | .atLeast, o => o != .lt
  | .more, o => o = .gt

namespace Handling

/-! ## Places -/

/-- The value in a place. -/
def valueAt : Spot → Handling Value
  | .slot (.shared name) => shared name
  | .slot slot => do
    return match ← cellOf slot with
      | .value v => v
      | _ => .unset
  | .element n key => do
    changeTable n (·.touch key)
    return (← table n).value key
  | .field n => field n

/-- Give a value to a place. -/
def putAt (v : Value) : Spot → Handling Unit
  | .slot (.shared name) => setShared name v
  | .slot slot => setCell slot (.value v)
  | .element n key => changeTable n (·.put key v)
  | .field n => setField n v

/-! ## Other results -/

/-- A number by chance. -/
def chance : Handling Quantity := do
  let s ← get
  let next := (s.chance * 1103515245 + 12345) % Nat.pow 2 31
  set { s with chance := next }
  return Quantity.kept (.finite false next (Nat.pow 2 31))

/-- Put a format and its values together.  What has been put together before a fault is printed, if
the text is to be printed. -/
def formatted (word : String) (values : List Value) : Handling String := do
  let conversion ← conversion
  match values with
  | [] => return ""
  | form :: values =>
    let text := (form.toText conversion).toList
    match Value.format conversion (text.length + 1) 1 [] text values with
    | .ok cs => return String.ofList cs
    | .error (f, done) =>
      if word = "printf" then emit (String.ofList done)
      let place := word ++ "(\"" ++ String.ofList text ++ "\")"
      fault (match f with
        | .tooFew => "not enough arguments passed to " ++ place
        | .improper n => "improper conversion(number " ++ toString n ++ ") in " ++ place)

/-! ## Loops -/

/-- Carry out one turn of a loop; whether the loop goes on. -/
def turn (act : Handling Unit) : Handling Bool := do
  try
    act
    return true
  catch
    | .leave => return false
    | .goOn => return true
    | j => throw j

/-- Carry out the statements of a routine, and give what it gives back. -/
def result (act : Handling Unit) : Handling Value := do
  try
    act
    return .unset
  catch
    | .giveBack v => return v
    | j => throw j

end Handling

namespace Rules

open Handling

mutual

/-- The value of an expression. -/
def eval (h : Rules) : (fuel : Nat) → Expr → Handling Value
  | 0, _ => halt
  | fuel + 1, e => do
    match e with
    | .number q => return .number q
    | .text s => return .text s
    | .pattern r =>
      let text ← recordText
      return .ofBool (r.isIn { text := text.toList.toArray })
    | .slot s => valueAt (.slot s)
    | .element .. => valueAt (← h.spotOf fuel e)
    | .field n => field (whole (← h.evalNumber fuel n))
    | .assign goal how value =>
      let spot ← h.spotOf fuel goal
      let v ← h.eval fuel value
      let v ← match how with
        | none => pure v
        | some op =>
          let old ← valueAt spot
          pure (.number (Operator.apply op old.toNumber v.toNumber))
      putAt v spot
      return v
    | .step goal isUp isAfter =>
      let spot ← h.spotOf fuel goal
      let old := (← valueAt spot).toNumber
      let new := (if isUp then Quantity.add else Quantity.sub) old (Quantity.ofNat 1)
      putAt (.number new) spot
      return .number (if isAfter then new else old)
    | .choose condition yes no =>
      if (← h.eval fuel condition).isTrue then h.eval fuel yes else h.eval fuel no
    | .both a b =>
      if (← h.eval fuel a).isTrue then return .ofBool (← h.eval fuel b).isTrue
      return .ofBool false
    | .either a b =>
      if (← h.eval fuel a).isTrue then return .ofBool true
      return .ofBool (← h.eval fuel b).isTrue
    | .isIn index slot =>
      let key ← keyOf (← h.evalAll fuel index)
      let n ← tableIn slot
      let isThere := (← table n).elements.contains key.text
      if isThere then changeTable n (·.touch key)
      return .ofBool isThere
    | .like isNegated subject pattern =>
      let text ← h.evalText fuel subject
      let r ← h.patternOf fuel pattern
      return .ofBool (r.isIn { text := text.toList.toArray } != isNegated)
    | .compare how a b =>
      let x ← h.eval fuel a
      let y ← h.eval fuel b
      return .ofBool (Comparison.holds how (x.order (← conversion) y))
    | .join a b =>
      let x ← h.evalText fuel a
      let y ← h.evalText fuel b
      return .text (x ++ y)
    | .calculate how a b =>
      let x ← h.evalNumber fuel a
      let y ← h.evalNumber fuel b
      return .number (Operator.apply how x y)
    | .negative a => return .number (← h.evalNumber fuel a).negated
    | .positive a => return .number (← h.evalNumber fuel a)
    | .opposite a => return .ofBool (!(← h.eval fuel a).isTrue)
    | .call name arguments => h.call fuel name arguments
    | .apply f arguments => h.apply fuel f arguments
    | .read goal =>
      match ← nextRecord? maxFiles with
      | none => return .ofInt 0
      | some text =>
        match goal with
        | none => setRecord text
        | some goal => putAt (.input text) (← h.spotOf fuel goal)
        return .ofInt 1
    | .readFile goal path =>
      let name ← h.evalText fuel path
      if !(← openInlet name) then return .ofInt (-1)
      h.take fuel goal name
    | .readCommand goal command =>
      let name ← h.evalText fuel command
      openCommand h.run name
      h.take fuel goal name

/-- Read a record of a file or a command into a place. -/
def take (h : Rules) : (fuel : Nat) → Option Expr → String → Handling Value
  | 0, _, _ => halt
  | fuel + 1, goal, name => do
    match ← nextFrom name with
    | none => return .ofInt 0
    | some text =>
      match goal with
      | none => setRecord text
      | some goal => putAt (.input text) (← h.spotOf fuel goal)
      return .ofInt 1

/-- The values of some expressions. -/
def evalAll (h : Rules) : (fuel : Nat) → List Expr → Handling (List Value)
  | 0, _ => halt
  | _, [] => return []
  | fuel + 1, e :: es => do
    let v ← h.eval fuel e
    return v :: (← h.evalAll fuel es)

/-- The value of an expression as a text. -/
def evalText (h : Rules) : (fuel : Nat) → Expr → Handling String
  | 0, _ => halt
  | fuel + 1, e => do
    let v ← h.eval fuel e
    return v.toText (← conversion)

/-- The value of an expression as a number. -/
def evalNumber (h : Rules) : (fuel : Nat) → Expr → Handling Quantity
  | 0, _ => halt
  | fuel + 1, e => return (← h.eval fuel e).toNumber

/-- The pattern that an expression stands for. -/
def patternOf (h : Rules) : (fuel : Nat) → Expr → Handling Regex
  | 0, _ => halt
  | _ + 1, .pattern r => return r
  | fuel + 1, e => do pattern (← h.evalText fuel e)

/-- The place that an expression stands for. -/
def spotOf (h : Rules) : (fuel : Nat) → Expr → Handling Spot
  | 0, _ => halt
  | fuel + 1, e => do
    match e with
    | .slot s => return .slot s
    | .element slot index =>
      let key ← keyOf (← h.evalAll fuel index)
      return .element (← tableIn slot) key
    | .field n => return .field (whole (← h.evalNumber fuel n))
    | _ => halt

/-- The values that a routine begins with: a table is shared with it, and so is a variable without a
value that becomes a table. -/
def arguments (h : Rules) : (fuel : Nat) → List Expr → Handling (List Cell)
  | 0, _ => halt
  | _, [] => return []
  | fuel + 1, e :: es => do
    let cell ← match e with
      | .slot (.shared "NF") => pure (Cell.value (← h.eval fuel e))
      | .slot slot =>
        match ← cellOf slot with
        | .unset none =>
          let n ← newTable
          setCell slot (.unset (some n))
          pure (.unset (some n))
        | c => pure c
      | e => pure (.value (← h.eval fuel e))
    return cell :: (← h.arguments fuel es)

/-- Call a routine. -/
def call (h : Rules) : (fuel : Nat) → String → List Expr → Handling Value
  | 0, _, _ => halt
  | fuel + 1, name, es => do
    match h.set.routines.lookup name with
    | none => halt
    | some routine =>
      let cells ← h.arguments fuel es
      let own := (← get).own
      let gap := List.replicate (routine.parameters - cells.length) (Cell.unset none)
      modify fun s => { s with own := (cells ++ gap).toArray }
      let v ← result (h.execAll fuel routine.body)
      modify fun s => { s with own }
      return v

/-- Apply a function. -/
def apply (h : Rules) : (fuel : Nat) → Function → List Expr → Handling Value
  | 0, _, _ => halt
  | fuel + 1, f, es => do
    match f, es with
    | .length, [] => return .ofNat (← recordText).length
    | .length, [.slot slot] =>
      match ← cellOf slot with
      | .table n => return .ofNat (← table n).elements.size
      | .unset (some n) => return .ofNat (← table n).elements.size
      | _ => return .ofNat (← h.evalText fuel (.slot slot)).length
    | .length, e :: _ => return .ofNat (← h.evalText fuel e).length
    | .substr, [a, b] =>
      let s ← h.evalText fuel a
      return .text (partOf s (← h.evalNumber fuel b) none)
    | .substr, [a, b, c] =>
      let s ← h.evalText fuel a
      let start ← h.evalNumber fuel b
      return .text (partOf s start (some (← h.evalNumber fuel c)))
    | .index, [a, b] =>
      let s ← h.evalText fuel a
      let part ← h.evalText fuel b
      return .ofNat (placeIn s.toList part.toList)
    | .split, text :: .slot slot :: more =>
      let s ← h.evalText fuel text
      let separator ← match more with
        | [] => fieldSeparator (← plainText "FS")
        | .pattern r :: _ => pure (if r = .empty then Separator.nothing else .pattern r)
        | e :: _ => fieldSeparator (← h.evalText fuel e)
      let pieces := separator.fields s.toList
      let n ← tableIn slot
      setTable n (Table.ofList (pieces.map fun p => .input (String.ofList p)))
      return .ofNat pieces.length
    | .sub, [p, new, goal] | .gsub, [p, new, goal] =>
      let r ← h.patternOf fuel p
      let new ← h.evalText fuel new
      let spot ← h.spotOf fuel goal
      let old := (← valueAt spot).toText (← conversion)
      let s : Regex.Subject := { text := old.toList.toArray }
      let (text, n) := replaceFrom r new.toList (f = .gsub) s (s.text.size + 2) 0 none
      if 0 < n then putAt (.text (String.ofList text)) spot
      return .ofNat n
    | .find, [text, p] =>
      let s ← h.evalText fuel text
      let r ← h.patternOf fuel p
      let (start, length) : Int × Int := match r.search? { text := s.toList.toArray } 0 with
        | some f => ((f.start : Int) + 1, (f.stop : Int) - f.start)
        | none => (0, -1)
      setPlain "RSTART" (.ofInt start)
      setPlain "RLENGTH" (.ofInt length)
      return .ofInt start
    | .sprintf, es => return .text (← formatted "sprintf" (← h.evalAll fuel es))
    | .atan2, [a, b] =>
      let x ← h.evalNumber fuel a
      let y ← h.evalNumber fuel b
      return .number (Quantity.ofFloat (Float.atan2 x.toFloat y.toFloat))
    | .rand, _ => return .number (← chance)
    | .srand, es =>
      let old := (← get).seed
      let seed ← match es with
        | e :: _ => h.eval fuel e
        | [] => pure (.number (Quantity.ofNat 1))
      let start := (seed.toNumber.clamped 0 (Nat.pow 2 31)).toNat
      modify fun s => { s with seed, chance := start }
      return old
    | .lower, [a] =>
      return .text (String.ofList ((← h.evalText fuel a).toList.map Char.toLower))
    | .upper, [a] =>
      return .text (String.ofList ((← h.evalText fuel a).toList.map Char.toUpper))
    | .system, [a] =>
      let command ← h.evalText fuel a
      flushAll
      return .ofInt (statusOf (← runCommand h.run "sh" command id))
    | .close, [a] => return .ofInt (← close h.run (← h.evalText fuel a))
    | .flush, [] =>
      flushOutput
      return .ofInt 0
    | .flush, e :: _ =>
      let name ← h.evalText fuel e
      flushAll
      return .ofInt (if name = "/dev/stdout" || (← get).outlets.any (·.name = name) then 0 else -1)
    | f, [a] => return .number (calculated f (← h.evalNumber fuel a))
    | _, _ => halt

/-- Carry out some statements. -/
def execAll (h : Rules) : (fuel : Nat) → List Statement → Handling Unit
  | 0, _ => halt
  | _, [] => return
  | fuel + 1, s :: ss => do
    h.exec fuel s
    h.execAll fuel ss

/-- Print a text to where it is to go. -/
def put (h : Rules) : (fuel : Nat) → Option (Outward × Expr) → String → Handling Unit
  | 0, _, _ => halt
  | _, none, text => emit text
  | fuel + 1, some (way, e), text => do emitTo way (← h.evalText fuel e) text

/-- Carry out a statement. -/
def exec (h : Rules) : (fuel : Nat) → Statement → Handling Unit
  | 0, _ => halt
  | fuel + 1, s => do
    match s with
    | .evaluate e =>
      let _ ← h.eval fuel e
    | .print [] goal =>
      let text ← recordText
      let stop ← plainText "ORS"
      h.put fuel goal (text ++ stop)
    | .print es goal =>
      let values ← h.evalAll fuel es
      let separator ← plainText "OFS"
      let stop ← plainText "ORS"
      let conversion ← plainText "OFMT"
      h.put fuel goal (separator.intercalate (values.map (Value.toText conversion)) ++ stop)
    | .printf es goal =>
      let values ← h.evalAll fuel es
      h.put fuel goal (← formatted "printf" values)
    | .block body => h.execAll fuel body
    | .choose condition yes no =>
      if (← h.eval fuel condition).isTrue then h.exec fuel yes
      else match no with
        | some no => h.exec fuel no
        | none => return
    | .loop condition body =>
      if (← h.eval fuel condition).isTrue then
        if ← turn (h.exec fuel body) then h.exec fuel (.loop condition body)
    | .turn body condition =>
      if ← turn (h.exec fuel body) then
        if (← h.eval fuel condition).isTrue then h.exec fuel (.turn body condition)
    | .count first condition next body =>
      match first with
      | some e =>
        let _ ← h.eval fuel e
      | none => pure ()
      let holds ← match condition with
        | some e => pure (← h.eval fuel e).isTrue
        | none => pure true
      if holds then
        if ← turn (h.exec fuel body) then h.exec fuel (.count next condition next body)
    | .each goal slot body =>
      let n ← tableIn slot
      changeTable n Table.settle
      h.execEach fuel goal body (← table n).names
    | .nextRecord => throw .nextRecord
    | .nextFile => throw .nextFile
    | .exit code =>
      match code with
      | some e =>
        let n := whole (← h.evalNumber fuel e)
        modify fun s => { s with code := (n % 256).toNat }
      | none => pure ()
      throw .exit
    | .giveBack value =>
      let v ← match value with
        | some e => h.eval fuel e
        | none => pure .unset
      throw (.giveBack v)
    | .leave => throw .leave
    | .goOn => throw .goOn
    | .erase slot [] => setTable (← tableIn slot) {}
    | .erase slot index =>
      let key ← keyOf (← h.evalAll fuel index)
      changeTable (← tableIn slot) (·.erase key)

/-- Carry out a statement for each of some names. -/
def execEach (h : Rules) : (fuel : Nat) → Slot → Statement → List String → Handling Unit
  | 0, _, _, _ => halt
  | _, _, _, [] => return
  | fuel + 1, goal, body, name :: names => do
    putAt (.text name) (.slot goal)
    if ← turn (h.exec fuel body) then h.execEach fuel goal body names

end

/-! ## Rules -/

/-- How much is carried out at most. -/
def maxFuel : Nat := 100000000

/-- Carry out what a rule has for a record. -/
def execBody (h : Rules) (body : Option (List Statement)) : Handling Unit :=
  match body with
  | some body => h.execAll maxFuel body
  | none => h.exec maxFuel (.print [] none)

/-- Carry out a rule for a record. -/
def execRule (h : Rules) (n : Nat) (r : Rule) : Handling Unit := do
  let holds := fun (e : Expr) => do return (← h.eval maxFuel e).isTrue
  match r.occasion with
  | .start | .finish => return
  | .record none => h.execBody r.body
  | .record (some e) => if ← holds e then h.execBody r.body
  | .between first last =>
    let isInside ← if (← get).begun.elem n then pure true else holds first
    if isInside then
      let isLast ← holds last
      modify fun s =>
        { s with begun := if isLast then s.begun.filter (· != n) else
            if s.begun.elem n then s.begun else n :: s.begun }
      h.execBody r.body

/-- Carry out all rules for a record. -/
def execRecord (h : Rules) : (n : Nat) → List Rule → Handling Unit
  | _, [] => return
  | n, r :: rs => do
    h.execRule n r
    h.execRecord (n + 1) rs

/-- Carry out the rules for all records. -/
def execRecords (h : Rules) : (fuel : Nat) → Handling Unit
  | 0 => return
  | fuel + 1 => do
    match ← nextRecord? maxFiles with
    | none => return
    | some text =>
      setRecord text
      try h.execRecord 0 h.set.rules
      catch
        | .nextRecord => pure ()
        | .nextFile => modify fun s => { s with main := none }
        | j => throw j
      execRecords h fuel

/-- Carry out the rules for an occasion without a record. -/
def execFor (h : Rules) (p : Occasion → Bool) : Handling Unit := do
  for r in h.set.rules do
    if p r.occasion then h.execBody r.body

/-- Whether an occasion is the start. -/
def isStart : Occasion → Bool
  | .start => true
  | _ => false

/-- Whether an occasion is the finish. -/
def isFinish : Occasion → Bool
  | .finish => true
  | _ => false

/-- Do something up to an exit. -/
def upToExit (act : Handling Unit) : Handling Bool := do
  try
    act
    return true
  catch
    | .exit => return false
    | j => throw j

/-- Carry out all rules. -/
def execAllRules (h : Rules) : Handling Unit := do
  let isFine ← upToExit (h.execFor isStart)
  if h.set.rules.all fun r => isStart r.occasion then return
  if isFine then
    let _ ← upToExit (h.execRecords maxFuel)
  let _ ← upToExit (h.execFor isFinish)

/-- Carry out all rules, close everything, and give the code that ends it. -/
def perform (h : Rules) (before : Handling Unit) : Handling Nat := do
  let guarded := fun (act : Handling Unit) => do
    try act
    catch
      | _ => pure ()
  guarded do
    before
    h.execAllRules
  guarded (closeAll h.run)
  return (← get).code

end Rules

end ScriptedShell.Local.Records
