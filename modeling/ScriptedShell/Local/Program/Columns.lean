/-
# Columns

Programs that take parts out of lines or put lines side by side.
-/
import ScriptedShell.Local.Program.Show

namespace ScriptedShell.Local.Program

open Act Text

/-! ## Ranges -/

/-- What is selected by position. -/
inductive Selection where
  | bytes
  | fields
  deriving DecidableEq

/-- A range of positions; one without an end goes on to the last. -/
structure Span where
  first : Nat
  last : Option Nat
  deriving Repr, DecidableEq

/-- Whether a span has a position. -/
def Span.has (s : Span) (n : Nat) : Bool := s.first ≤ n && s.last.all fun last => n ≤ last

/-- The spans that a list says, or what is wrong with it. -/
def spansOf (kind : Selection) (text : String) : Except String (List Span) := do
  let pieces := piecesOf (fun c => c = ',' || c = ' ' || c = '\t') text.toList
  let zero := match kind with
    | .fields => "fields are numbered from 1"
    | .bytes => "byte/character positions are numbered from 1"
  let what := match kind with
    | .fields => "invalid field value "
    | .bytes => "invalid byte/character position "
  let number := fun (cs : List Char) => match natural? (String.ofList cs) with
    | some 0 => throw zero
    | some n => pure n
    | none => throw (what ++ Named.quoted (String.ofList cs))
  pieces.mapM fun piece => do
    match piece.span (· != '-') with
    | (digits, []) =>
      if digits.isEmpty then throw zero
      let n ← number digits
      return ⟨n, some n⟩
    | ([], '-' :: []) => throw "invalid range with no endpoint: -"
    | (front, _ :: back) =>
      let first ← if front.isEmpty then pure 1 else number front
      if back.isEmpty then return ⟨first, none⟩
      let last ← number back
      if last < first then throw "invalid decreasing range"
      return ⟨first, some last⟩

/-- Whether a position is selected. -/
def selects (spans : List Span) (isInverted : Bool) (n : Nat) : Bool :=
  spans.any (·.has n) != isInverted

/-- Whether a span begins at a position that no other span goes on over. -/
def beginsAt (spans : List Span) (isInverted : Bool) (n : Nat) : Bool :=
  if isInverted then !selects spans isInverted (n - 1)
  else spans.any (fun s => s.first = n) && !(spans.any fun s => s.first < n && s.has n)

/-- The selected bytes of a line, with a text between stretches. -/
def selectedBytes (spans : List Span) (isInverted : Bool) (joint : Option (List Char))
    (line : List Char) : List Char :=
  let rec go (n : Nat) (started : Bool) : List Char → List Char
    | [] => []
    | c :: cs =>
      if selects spans isInverted n then
        let front := match joint with
          | some text => if started && beginsAt spans isInverted n then text else []
          | none => []
        front ++ c :: go (n + 1) true cs
      else go (n + 1) started cs
  go 1 false line

/-- Print parts of lines. -/
def cut (_ : Runner) : Program := do
  let known := valued [('b', "bytes"), ('c', "characters"), ('f', "fields"), ('d', "delimiter")] ++
    flags [('n', ""), ('s', "only-delimited"), ('z', "zero-terminated")] ++
    [⟨'1', "complement", .nothing, false⟩, ⟨'2', "output-delimiter", .value, false⟩]
  let (o, paths) ← options known 1 false
  let lists := o.filter fun p => "bcf".toList.elem p.1
  if 1 < lists.length then misused 1 "only one list may be specified"
  match lists with
  | [] => misused 1 "you must specify a list of bytes, characters, or fields"
  | (key, list) :: _ =>
    let kind : Selection := if key = 'f' then .fields else .bytes
    let delimiter := (o.last? 'd').map String.toList
    if (delimiter.map List.length).any (1 < ·) then
      misused 1 "the delimiter must be a single character"
    let spans ← match spansOf kind list with
      | .ok spans => pure spans
      | .error text => misused 1 text
    if kind = .bytes && delimiter.isSome then
      misused 1 "an input delimiter may be specified only when operating on fields"
    if kind = .bytes && o.has 's' then
      misused 1 "suppressing non-delimited lines makes sense\n\tonly when operating on fields"
    let mark := match delimiter with
      | some [c] => c
      | some _ => '\x00'
      | none => '\t'
    let joint := (o.last? '2').map String.toList
    let isInverted := o.has '1'
    let ending := if o.has 'z' then '\x00' else '\n'
    forEach (if paths.isEmpty then ["-"] else paths) fun path => do
      match ← readOperand path with
      | .error fault =>
        complainOf path fault.text
        return 1
      | .ok text =>
        let lines := (endedLines ending [] [] text).map fun line =>
          if line.getLast? = some ending then line.dropLast else line
        let printed := lines.filterMap fun line =>
          match kind with
          | .bytes => some (selectedBytes spans isInverted joint line)
          | .fields =>
            let fields := piecesOf (· = mark) line
            if fields.length = 1 then if o.has 's' then none else some line
            else
              let kept := fields.zipIdx.filterMap fun (field, i) =>
                if selects spans isInverted (i + 1) then some field else none
              some ((kept.intersperse (joint.getD [mark])).flatten)
        printChars (printed.map fun line => line ++ [ending]).flatten
        return 0

/-! ## Lines side by side -/

/-- The texts that a list of characters with escapes says, one for each character. -/
def delimitersOf : List Char → List (List Char)
  | [] => []
  | '\\' :: '0' :: cs => [] :: delimitersOf cs
  | '\\' :: 'n' :: cs => ['\n'] :: delimitersOf cs
  | '\\' :: 't' :: cs => ['\t'] :: delimitersOf cs
  | '\\' :: 'b' :: cs => ['\x08'] :: delimitersOf cs
  | '\\' :: 'f' :: cs => ['\x0c'] :: delimitersOf cs
  | '\\' :: 'r' :: cs => ['\r'] :: delimitersOf cs
  | '\\' :: 'v' :: cs => ['\x0b'] :: delimitersOf cs
  | '\\' :: c :: cs => [c] :: delimitersOf cs
  | c :: cs => [c] :: delimitersOf cs

/-- Texts with delimiters between them, which are taken in turn. -/
def interleave (delimiters : List (List Char)) (texts : List (List Char)) : List Char :=
  let pick := fun (i : Nat) => (delimiters[i % delimiters.length]?).getD []
  (texts.zipIdx.map fun (text, i) => if i = 0 then text else pick (i - 1) ++ text).flatten

/-- The lines of one of several operands that share the input: every so many lines, from one on. -/
def shareOf (lines : List (List Char)) (first step : Nat) : List (List Char) :=
  lines.zipIdx.filterMap fun (line, i) => if i % step = first then some line else none

/-- Print lines of files side by side, or all lines of each file in one. -/
def paste (_ : Runner) : Program := do
  let known := valued [('d', "delimiters")] ++ flags [('s', "serial"), ('z', "zero-terminated")]
  let (o, paths) ← options known 1 false
  let paths := if paths.isEmpty then ["-"] else paths
  let delimiters := match o.last? 'd' with
    | some text => if text.isEmpty then [[]] else delimitersOf text.toList
    | none => [['\t']]
  if o.has 's' then
    forEach paths fun path => do
      match ← readOperand path with
      | .error fault =>
        complainOf path fault.text
        return 1
      | .ok text =>
        printChars (interleave delimiters (rawLines text).1 ++ ['\n'])
        return 0
  else
    let input ← if paths.elem "-" then do
        match ← readStream 0 with
        | .ok text => pure (rawLines text).1
        | .error _ => pure []
      else pure []
    let shares := (paths.filter (· = "-")).length
    let mut files := #[]
    let mut seen := 0
    for path in paths do
      if path = "-" then
        files := files.push (shareOf input seen shares)
        seen := seen + 1
      else match ← readOperand path with
        | .ok text => files := files.push (rawLines text).1
        | .error fault =>
          complainOf path fault.text
          quit 1
    let count := files.toList.foldl (fun n lines => max n lines.length) 0
    let rec rows (n : Nat) (files : List (List (List Char))) : List (List Char) :=
      match n with
      | 0 => []
      | n + 1 =>
        (interleave delimiters (files.map fun lines => lines.head?.getD []) ++ ['\n']) ::
          rows n (files.map List.tail)
    printChars (rows count files.toList).flatten
    return 0

/-! ## Lines of two files -/

/-- Whether one line comes before another, byte by byte. -/
def lineBefore (a b : List Char) : Bool := a < b

/-- A line of two files in order: which of them have it. -/
inductive Origin where
  | first
  | second
  | both
  deriving DecidableEq

/-- The lines of two files in order, with where they come from. -/
def merged : Nat → List (List Char) → List (List Char) → List (Origin × List Char)
  | 0, _, _ => []
  | _, as, [] => as.map fun a => (.first, a)
  | _, [], bs => bs.map fun b => (.second, b)
  | fuel + 1, a :: as, b :: bs =>
    if a = b then (.both, a) :: merged fuel as bs
    else if lineBefore a b then (.first, a) :: merged fuel as (b :: bs)
    else (.second, b) :: merged fuel (a :: as) bs

/-- Whether lines are in order. -/
def isOrdered : List (List Char) → Bool
  | a :: b :: rest => !lineBefore b a && isOrdered (b :: rest)
  | _ => true

/-- The two files that a program compares, or an end with a complaint. -/
def twoFiles (paths : List String) (status : Nat) (isQuoted : Bool) :
    Act (List Char × List Char) := do
  let read := fun (path : String) => do
    match ← readOperand path with
    | .ok text => pure text
    | .error fault =>
      complain ((if isQuoted then Named.shown path else path) ++ ": " ++ fault.text)
      quit status
  match paths with
  | [] => missingOperand status
  | [a] => misused status ("missing operand after " ++ Named.quoted a)
  | [a, b] => do
    let first ← read a
    return (first, ← read b)
  | _ :: _ :: c :: _ => extraOperand status c

/-- Print which lines two files share. -/
def comm (_ : Runner) : Program := do
  let known := flags [('1', ""), ('2', ""), ('3', ""), ('z', "zero-terminated")] ++
    [⟨'o', "output-delimiter", .value, false⟩, ⟨'c', "check-order", .nothing, false⟩,
      ⟨'n', "nocheck-order", .nothing, false⟩, ⟨'t', "total", .nothing, false⟩]
  let (o, paths) ← options known 1 false
  let (a, b) ← twoFiles paths 1 true
  let as := (rawLines a).1
  let bs := (rawLines b).1
  let tab := (o.last? 'o').getD "\t"
  let all := merged (as.length + bs.length + 1) as bs
  let column := fun (origin : Origin) => match origin with
    | .first => if o.has '1' then none else some 0
    | .second => if o.has '2' then none else some (if o.has '1' then 0 else 1)
    | .both => if o.has '3' then none
      else some ((if o.has '1' then 0 else 1) + (if o.has '2' then 0 else 1))
  let texts := all.filterMap fun (origin, line) => (column origin).map fun n =>
    String.join (List.replicate n tab) ++ String.ofList line ++ "\n"
  let isFine := o.has 'n' || (isOrdered as && isOrdered bs)
  if !o.has 'n' then
    if !isOrdered as then complain "file 1 is not in sorted order"
    if !isOrdered bs then complain "file 2 is not in sorted order"
  print (String.join texts)
  if o.has 't' then
    let count := fun (origin : Origin) => toString ((all.filter fun p => p.1 = origin).length)
    print (count .first ++ tab ++ count .second ++ tab ++ count .both ++ tab ++ "total\n")
  if !isFine then complain "input is not in sorted order"
  return if isFine then 0 else 1

/-! ## Lines with the same field -/

/-- The fields of a line. -/
def fieldsOfLine (mark : Option Char) (line : List Char) : List (List Char) :=
  match mark with
  | some c => piecesOf (· = c) line
  | none => (piecesOf (fun c => c = ' ' || c = '\t') line).filter fun f => !f.isEmpty

/-- A field of a line that is printed. -/
inductive Choice where
  | key
  | field (file n : Nat)

/-- The fields that a list says. -/
def choicesOf (text : String) : Option (List Choice) :=
  ((piecesOf (fun c => c = ',' || c = ' ') text.toList).filter (!·.isEmpty)).mapM fun piece =>
    match piece with
    | ['0'] => some .key
    | f :: '.' :: digits =>
      if f = '1' || f = '2' then
        (natural? (String.ofList digits)).map fun n => .field (f.toNat - '0'.toNat) n
      else none
    | _ => none

/-- Lines with fields: the joined field, and all fields. -/
abbrev Keyed := List Char × List (List Char)

/-- The pairs of lines of two files in order, and lines without a partner. -/
def partners : Nat → List Keyed → List Keyed → List (Option Keyed × Option Keyed)
  | 0, _, _ => []
  | _, as, [] => as.map fun a => (some a, none)
  | _, [], bs => bs.map fun b => (none, some b)
  | fuel + 1, a :: as, b :: bs =>
    if a.1 = b.1 then
      let (sameA, restA) := (a :: as).span fun p => p.1 = a.1
      let (sameB, restB) := (b :: bs).span fun p => p.1 = b.1
      (sameA.flatMap fun x => sameB.map fun y => (some x, some y)) ++ partners fuel restA restB
    else if lineBefore a.1 b.1 then (some a, none) :: partners fuel as (b :: bs)
    else (none, some b) :: partners fuel (a :: as) bs

/-- Print pairs of lines of two files with the same field. -/
def join (_ : Runner) : Program := do
  let known := valued [('1', ""), ('2', ""), ('j', ""), ('t', ""), ('a', ""), ('v', ""), ('o', ""),
    ('e', "")] ++ flags [('i', "ignore-case"), ('z', "zero-terminated")] ++
    longFlags [('c', "check-order"), ('n', "nocheck-order"), ('h', "header")]
  let (o, paths) ← options known 1 false
  let (a, b) ← twoFiles paths 1 true
  let mark := (o.last? 't').bind fun t => t.toList.head?
  let number := fun (key : Char) => do
    match (o.last? key).or (o.last? 'j') with
    | none => pure 1
    | some text =>
      match natural? text with
      | some n => if n = 0 then misused 1 ("invalid field number: " ++ Named.quoted text) else pure n
      | none => do
        complain ("invalid field number: " ++ Named.quoted text)
        quit 1
  let keyA ← number '1'
  let keyB ← number '2'
  let fold := fun (cs : List Char) => if o.has 'i' then cs.map Char.toLower else cs
  let keyed := fun (key : Nat) (text : List Char) => (rawLines text).1.map fun line =>
    let fields := fieldsOfLine mark line
    (fold ((fields[key - 1]?).getD []), fields)
  let as := keyed keyA a
  let bs := keyed keyB b
  let wants := fun (n : String) => (o.all 'a').elem n
  let only := o.all 'v'
  let filler := ((o.last? 'e').getD "").toList
  let choices := ((o.last? 'o').filter (· != "auto")).bind choicesOf
  let line := fun (pair : Option Keyed × Option Keyed) =>
    let fieldsA := (pair.1.map (·.2)).getD []
    let fieldsB := (pair.2.map (·.2)).getD []
    let key := if pair.1.isSome then (fieldsA[keyA - 1]?).getD []
      else (fieldsB[keyB - 1]?).getD []
    let others := fun (key : Nat) (fields : List (List Char)) => fields.eraseIdx (key - 1)
    let filled := fun (f : Option (List Char)) => match f with
      | some f => if f.isEmpty then filler else f
      | none => filler
    let fields := match choices with
      | none => key :: others keyA fieldsA ++ others keyB fieldsB
      | some choices => choices.map fun (choice : Choice) => match choice with
        | .key => filled (some key)
        | .field 1 n => filled (fieldsA[n - 1]?)
        | .field _ n => filled (fieldsB[n - 1]?)
    (fields.intersperse [mark.getD ' ']).flatten ++ ['\n']
  let shown := (partners (as.length + bs.length + 1) as bs).filter fun pair =>
    match pair.1.isSome, pair.2.isSome with
    | true, true => only.isEmpty
    | true, false => wants "1" || only.elem "1"
    | _, _ => wants "2" || only.elem "2"
  printChars (shown.map line).flatten
  let mut status := 0
  for (n, lines, path, text) in [(1, as, paths.getD 0 "", a), (2, bs, paths.getD 1 "", b)] do
    let keys := lines.map (·.1)
    if !o.has 'n' && !isOrdered keys then
      let at? := ((keys.zip (keys.drop 1)).zipIdx.find? fun (p, _) => lineBefore p.2 p.1).map (·.2)
      let i := at?.getD 0 + 1
      complain (path ++ ":" ++ toString (i + 1) ++ ": is not sorted: " ++
        String.ofList (((rawLines text).1[i]?).getD []))
      status := n * 0 + 1
  if status != 0 then complain "input is not in sorted order"
  return status

/-- The programs for columns. -/
def columns : List (String × (Runner → Program)) :=
  [("cut", cut), ("paste", paste), ("comm", comm), ("join", join)]

end ScriptedShell.Local.Program
