/-
# Scripts of edits

The commands that a stream of lines is edited with, and how they are written: an address or two, and
a letter with what belongs to it.  A fault is reported with the place where the reading has come to.
-/
import ScriptedShell.Local.Program.Amount
import ScriptedShell.Regex.Reader

namespace ScriptedShell.Local.Program

open Act Text

/-! ## Commands -/

/-- An expression with the way that it is searched for. -/
structure LinePattern where
  regex : Regex
  ignoresCase : Bool := false
  hasLines : Bool := false
  deriving Repr

/-- What lines a command is for. -/
inductive LineAddress where
  | line (n : Nat)
  /-- Every so many lines from a first one on. -/
  | step (first step : Nat)
  | last
  /-- The lines with a pattern; none stands for the one that was used last. -/
  | like (pattern : Option LinePattern)
  /-- So many lines after the first one. -/
  | after (n : Nat)
  /-- The next line whose number is a multiple. -/
  | multiple (n : Nat)
  deriving Repr

/-- How letters are changed. -/
inductive LetterCase where
  | kept
  | upper
  | lower
  deriving Repr, DecidableEq

/-- A part of what is put in for a pattern. -/
inductive Replacement where
  | text (text : List Char)
  | group (n : Nat)
  /-- How all letters from here on are changed. -/
  | all (case : LetterCase)
  /-- How the next letter is changed. -/
  | next (case : LetterCase)
  deriving Repr

/-- What is done for a pattern. -/
structure Substitution where
  /-- None stands for the pattern that was used last. -/
  pattern : Option LinePattern
  parts : List Replacement
  isGlobal : Bool := false
  /-- The number of the first stretch that is replaced. -/
  number : Nat := 1
  prints : Bool := false
  /-- Whether it is printed before the line is run as a command. -/
  printsFirst : Bool := false
  runs : Bool := false
  goal : Option String := none
  deriving Repr

/-- What a command does. -/
inductive EditAction where
  /-- The beginning of a block, with the number of the command after its end. -/
  | openBlock (stop : Nat)
  | closeBlock
  | label
  | print
  | printFirst
  | delete
  | deleteFirst
  | next
  | joinNext
  | take
  | takeMore
  | hold
  | holdMore
  | exchange
  | number
  | list (width : Option Nat)
  | name
  | clear
  | quit (code : Nat)
  | quitSilently (code : Nat)
  | append (text : List Char)
  | insert (text : List Char)
  | change (text : List Char)
  | appendFile (path : String)
  | appendLine (path : String)
  | write (path : String)
  | writeFirst (path : String)
  | run (command : List Char)
  | jump (label : String)
  | jumpIfReplaced (label : String)
  | jumpUnlessReplaced (label : String)
  | substitute (s : Substitution)
  | translate (pairs : List (Char × Char))
  deriving Repr

/-- A command with its addresses. -/
structure EditCommand where
  first : Option LineAddress := none
  second : Option LineAddress := none
  isNegated : Bool := false
  action : EditAction
  deriving Repr

/-! ## Faults -/

/-- What is wrong with a script. -/
inductive EditFault where
  | missingCommand
  | unknownCommand (c : Char)
  | extraCharacters
  | unexpectedComma
  | unexpectedClosing
  | unmatchedOpening
  | manyNegations
  | lineZero
  | relativeFirst
  | commentAddress
  | closingAddress
  | labelAddress
  | oneAddress
  | missingLabel
  | missingFile
  | expectedText
  | openAddress
  | openSubstitution
  | openTranslation
  | unequalTranslation
  | unknownOption
  | doubled (option : String)
  | numberZero
  | reference (n : Nat)
  | emptyWithOptions
  | newerVersion
  | noPrevious
  | regex (fault : RegexFault)
  deriving Repr, DecidableEq

/-- The wording of a fault. -/
def EditFault.text : EditFault → String
  | missingCommand => "missing command"
  | unknownCommand c => "unknown command: `" ++ String.singleton c ++ "'"
  | extraCharacters => "extra characters after command"
  | unexpectedComma => "unexpected `,'"
  | unexpectedClosing => "unexpected `\x7d'"
  | unmatchedOpening => "unmatched `\x7b'"
  | manyNegations => "multiple `!'s"
  | lineZero => "invalid usage of line address 0"
  | relativeFirst => "invalid usage of +N or ~N as first address"
  | commentAddress => "comments don't accept any addresses"
  | closingAddress => "\x7d doesn't want any addresses"
  | labelAddress => ": doesn't want any addresses"
  | oneAddress => "command only uses one address"
  | missingLabel => "\":\" lacks a label"
  | missingFile => "missing filename in r/R/w/W commands"
  | expectedText => "expected \\ after `a', `c' or `i'"
  | openAddress => "unterminated address regex"
  | openSubstitution => "unterminated `s' command"
  | openTranslation => "unterminated `y' command"
  | unequalTranslation => "strings for `y' command are different lengths"
  | unknownOption => "unknown option to `s'"
  | doubled option => "multiple " ++ option ++ " options to `s' command"
  | numberZero => "number option to `s' command may not be zero"
  | reference n => "invalid reference \\" ++ toString n ++ " on `s' command's RHS"
  | emptyWithOptions => "cannot specify modifiers on empty regexp"
  | newerVersion => "expected newer version of sed"
  | noPrevious => "no previous regular expression"
  | regex fault => fault.text

/-! ## Reading -/

/-- What the reading of a script goes on with. -/
structure EditReading where
  rest : List Char
  /-- The number of characters that have been read. -/
  place : Nat := 0
  isExtended : Bool := false
  commands : Array EditCommand := #[]
  /-- The commands that blocks begin with, and their places, the innermost one first. -/
  blocks : List (Nat × Nat) := []
  labels : List (String × Nat) := []
  /-- The files that are written. -/
  goals : List String := []

/-- Reading a script; a fault comes with the place where it shows. -/
abbrev EditReader := StateT EditReading (Except (EditFault × Nat))

namespace EditReader

/-- Stop with a fault here. -/
def fault (f : EditFault) : EditReader α := do throw (f, (← get).place)

/-- The next character. -/
def next? : EditReader (Option Char) := do
  let s ← get
  match s.rest with
  | c :: rest =>
    set { s with rest, place := s.place + 1 }
    return some c
  | [] => return none

/-- The next character, which is not taken. -/
def peek? : EditReader (Option Char) := return (← get).rest.head?

/-- Take some characters that have been looked at. -/
def skip (n : Nat) : EditReader Unit :=
  modify fun s => { s with rest := s.rest.drop n, place := s.place + min n s.rest.length }

/-- Take the characters at the front that satisfy `p`. -/
def takeWhile (p : Char → Bool) : EditReader (List Char) := do
  let cs := (← get).rest.takeWhile p
  skip cs.length
  return cs

/-- Whether a character is a gap inside a line. -/
def isGap (c : Char) : Bool := c = ' ' || c = '\t'

/-- The next character that is no gap. -/
def solid? : EditReader (Option Char) := do
  let _ ← takeWhile isGap
  next?

/-- The number at the front; zero if there is none. -/
def number : EditReader Nat := do
  let digits ← takeWhile Char.isDigit
  return (String.ofList digits).toNat?.getD 0

/-- The end of a command. -/
def ending : EditReader Unit := do
  let _ ← takeWhile isGap
  match ← peek? with
  | none => return
  | some c =>
    if c = '\x7d' || c = '#' then return
    let _ ← next?
    if c != '\n' && c != ';' then fault .extraCharacters

/-! ### Texts between marks -/

/-- The text up to a mark, and what follows the mark.  In a pattern, marks between square brackets
do not count, and a letter for a line feed becomes one. -/
def untilMark (mark : Char) (isPattern : Bool) : (fuel : Nat) → (isInside : Bool) →
    (found : List Char) → List Char → Option (List Char) × List Char
  | 0, _, _, rest => (none, rest)
  | _, _, _, [] => (none, [])
  | fuel + 1, isInside, found, c :: rest =>
    let go := untilMark mark isPattern fuel
    if c = '\n' then (none, c :: rest)
    else if isInside then
      match c, rest with
      | ']', _ => go false (c :: found) rest
      | '[', d :: rest' =>
        if d = ':' || d = '.' || d = '=' then
          let (inside, after) := rest'.span (· != ']')
          if inside.getLast? = some d then
            go true (']' :: inside.reverse ++ (d :: c :: found)) (after.drop 1)
          else go true (c :: found) rest
        else go true (c :: found) rest
      | '\\', 'n' :: rest => go true ('\n' :: found) rest
      | '\\', '\n' :: rest => go true ('\n' :: found) rest
      | _, _ => go true (c :: found) rest
    else if c = mark then (some found.reverse, rest)
    else if c = '\\' then
      match rest with
      | [] => (none, [])
      | d :: rest =>
        if d = 'n' && isPattern then go false ('\n' :: found) rest
        else if d = '\n' then go false (d :: found) rest
        else if d = mark && (isPattern || d != '&') then go false (d :: found) rest
        else go false (d :: '\\' :: found) rest
    else if c = '[' && isPattern then
      match rest with
      | '^' :: ']' :: rest => go true (']' :: '^' :: c :: found) rest
      | ']' :: rest => go true (']' :: c :: found) rest
      | _ => go true (c :: found) rest
    else go false (c :: found) rest

/-- The text up to a mark. -/
def marked (mark : Char) (isPattern : Bool) (f : EditFault) : EditReader (List Char) := do
  let s ← get
  let (text, rest) := untilMark mark isPattern (s.rest.length + 1) false [] s.rest
  set { s with rest, place := s.place + (s.rest.length - rest.length) }
  match text with
  | some text => return text
  | none => fault f

/-! ### Characters by their codes -/

/-- The value of a digit. -/
def digitValue (c : Char) : Nat :=
  if c.isDigit then c.toNat - '0'.toNat else c.toLower.toNat - 'a'.toNat + 10

/-- Whether a character is a digit in a base. -/
def isDigitIn (base : Nat) (c : Char) : Bool :=
  (c.isDigit || ('a' ≤ c.toLower && c.toLower ≤ 'f')) && digitValue c < base

/-- The character that what follows a backslash stands for, by its code or its name, and what comes
after that. -/
def coded? : List Char → Option (Char × List Char)
  | [] => none
  | c :: rest =>
    let byCode := fun (base most : Nat) =>
      let digits := (rest.take most).takeWhile (isDigitIn base)
      if digits.isEmpty then none
      else
        let n := digits.foldl (fun n d => base * n + digitValue d) 0
        some (Char.ofNat (n % 256), rest.drop digits.length)
    match c with
    | 'a' => some ('\x07', rest)
    | 'f' => some ('\x0c', rest)
    | 'r' => some ('\r', rest)
    | 't' => some ('\t', rest)
    | 'v' => some ('\x0b', rest)
    | 'd' => byCode 10 3
    | 'o' => byCode 8 3
    | 'x' => byCode 16 2
    | 'c' => match rest with
      | d :: rest => some (Char.ofNat (Nat.xor d.toUpper.toNat 64 % 256), rest)
      | [] => none
    | _ => none

/-- A pattern with characters in the place of their codes. -/
def withCodes : (fuel : Nat) → List Char → List Char
  | 0, cs => cs
  | _, [] => []
  | fuel + 1, '\\' :: rest =>
    match coded? rest with
    | some (c, rest) => c :: withCodes fuel rest
    | none => match rest with
      | d :: rest => '\\' :: d :: withCodes fuel rest
      | [] => ['\\']
  | fuel + 1, c :: rest => c :: withCodes fuel rest

/-- A text where a backslash takes the meaning from the character after it. -/
def plainText : (fuel : Nat) → List Char → List Char
  | 0, cs => cs
  | _, [] => []
  | fuel + 1, '\\' :: rest =>
    match coded? rest with
    | some (c, rest) => c :: plainText fuel rest
    | none => match rest with
      | 'n' :: rest => '\n' :: plainText fuel rest
      | d :: rest => d :: plainText fuel rest
      | [] => []
  | fuel + 1, c :: rest => c :: plainText fuel rest

/-- The parts of what is put in for a pattern. -/
def replacements : (fuel : Nat) → List Char → List Replacement
  | 0, _ => []
  | _, [] => []
  | fuel + 1, '&' :: rest => .group 0 :: replacements fuel rest
  | fuel + 1, '\\' :: rest =>
    match coded? rest with
    | some (c, rest) => .text [c] :: replacements fuel rest
    | none => match rest with
      | [] => [.text ['\\']]
      | ['c'] => [.text ['\\']]
      | d :: rest =>
        let part := if d.isDigit then Replacement.group (d.toNat - '0'.toNat)
          else match d with
            | 'L' => .all .lower
            | 'U' => .all .upper
            | 'E' => .all .kept
            | 'l' => .next .lower
            | 'u' => .next .upper
            | 'n' => .text ['\n']
            | d => .text [d]
        part :: replacements fuel rest
  | fuel + 1, c :: rest =>
    let (plain, rest) := rest.span fun c => c != '&' && c != '\\'
    .text (c :: plain) :: replacements fuel rest

/-! ### Patterns and addresses -/

/-- The sets of an expression without the line feed. -/
def withoutFeeds : Regex → Regex
  | .oneOf set =>
    if set.isInverted then .oneOf { set with members := .range '\n' '\n' :: set.members }
    else .oneOf set
  | .cat a b => .cat (withoutFeeds a) (withoutFeeds b)
  | .either a b => .either (withoutFeeds a) (withoutFeeds b)
  | .repeated a least most => .repeated (withoutFeeds a) least most
  | .group n a => .group n (withoutFeeds a)
  | r => r

/-- The pattern that a text writes; an empty text stands for the one that was used last. -/
def pattern (text : List Char) (ignoresCase hasLines : Bool) :
    EditReader (Option LinePattern) := do
  if text.isEmpty then
    if ignoresCase || hasLines then fault .emptyWithOptions
    return none
  let isExtended := (← get).isExtended
  let grammar : Regex.Grammar :=
    { isExtended, isStrict := true, refusesDoubled := !isExtended, refusesOutside := true }
  match Regex.read grammar (withCodes (text.length + 1) text) with
  | .ok regex =>
    let regex := if hasLines then withoutFeeds regex else regex
    return some { regex, ignoresCase, hasLines }
  | .error f => fault (.regex f)

/-- The letters after the pattern of an address. -/
def addressOptions : (fuel : Nat) → (ignoresCase hasLines : Bool) → EditReader (Bool × Bool)
  | 0, i, m => return (i, m)
  | fuel + 1, i, m => do
    let _ ← takeWhile isGap
    match ← peek? with
    | some 'I' =>
      skip 1
      addressOptions fuel true m
    | some 'M' =>
      skip 1
      addressOptions fuel i true
    | _ => return (i, m)

/-- An address, if one begins with a character that has been taken. -/
def address? (c : Char) : EditReader (Option LineAddress) := do
  let like := fun (mark : Char) => do
    let text ← marked mark true .openAddress
    let (i, m) ← addressOptions ((← get).rest.length + 1) false false
    return some (LineAddress.like (← pattern text i m))
  if c = '/' then like '/'
  else if c = '\\' then
    match ← next? with
    | some mark => like mark
    | none => fault .openAddress
  else if c.isDigit then
    let digits ← takeWhile Char.isDigit
    let n := (String.ofList (c :: digits)).toNat?.getD 0
    let _ ← takeWhile isGap
    match ← peek? with
    | some '~' =>
      skip 1
      let _ ← takeWhile isGap
      let step ← number
      return some (if step = 0 then .line n else .step n step)
    | _ => return some (.line n)
  else if c = '+' || c = '~' then
    let _ ← takeWhile isGap
    let n ← number
    return some (if c = '+' then .after n else .multiple n)
  else if c = '$' then return some .last
  else return none

/-! ### What belongs to commands -/

/-- The name of a file, up to the end of the line. -/
def fileName : EditReader String := do
  let _ ← takeWhile isGap
  let name ← takeWhile (· != '\n')
  let _ ← next?
  if name.isEmpty then fault .missingFile
  return String.ofList name

/-- The name of a file that is written. -/
def goal : EditReader String := do
  let name ← fileName
  modify fun s => { s with goals := if s.goals.elem name then s.goals else s.goals ++ [name] }
  return name

/-- A label, which may be empty. -/
def labelName : EditReader String := do
  let _ ← takeWhile isGap
  let name ← takeWhile fun c => !CharClass.isSpace c && c != ';' && c != '\x7d'
  return String.ofList name

/-- The lines of a text up to one that does not end with a backslash, as they are written. -/
def rawText : (fuel : Nat) → (found : List Char) → List Char → List Char × List Char
  | 0, found, rest => (found.reverse, rest)
  | _, found, [] => (found.reverse, [])
  | _ + 1, found, '\n' :: rest => (found.reverse, '\n' :: rest)
  | _ + 1, found, ['\\'] => (found.reverse, [])
  | fuel + 1, found, '\\' :: c :: rest => rawText fuel (c :: '\\' :: found) rest
  | fuel + 1, found, c :: rest => rawText fuel (c :: found) rest

/-- The text that belongs to a command. -/
def commandText : EditReader (List Char) := do
  let _ ← takeWhile isGap
  match (← get).rest with
  | [] => fault .expectedText
  | ['\\'] =>
    skip 1
    return []
  | '\n' :: _ =>
    skip 1
    fault .expectedText
  | cs =>
    match cs with
    | '\\' :: '\n' :: _ => skip 2
    | '\\' :: _ => skip 1
    | _ => pure ()
    let s ← get
    let (raw, rest) := rawText (s.rest.length + 1) [] s.rest
    set { s with rest := rest.drop 1, place := s.place + (s.rest.length - (rest.drop 1).length) }
    return plainText (raw.length + 1) raw ++ ['\n']

/-- The letters and the number after a substitution. -/
def substitutionOptions : (fuel : Nat) → Substitution → (hasNumber ignoresCase hasLines : Bool) →
    EditReader (Substitution × Bool × Bool)
  | 0, s, _, i, m => return (s, i, m)
  | fuel + 1, s, n, i, m => do
    let finish := (s, i, m)
    match ← peek? with
    | none => return finish
    | some c =>
      if c = '\x7d' || c = '#' then return finish
      let _ ← next?
      match c with
      | '\n' | ';' => return finish
      | ' ' | '\t' => substitutionOptions fuel s n i m
      | 'i' | 'I' => substitutionOptions fuel s n true m
      | 'm' | 'M' => substitutionOptions fuel s n i true
      | 'e' => substitutionOptions fuel { s with runs := true } n i m
      | 'p' =>
        if s.prints then fault (.doubled "`p'")
        substitutionOptions fuel { s with prints := true, printsFirst := !s.runs } n i m
      | 'g' =>
        if s.isGlobal then fault (.doubled "`g'")
        substitutionOptions fuel { s with isGlobal := true } n i m
      | 'w' => return ({ s with goal := some (← goal) }, i, m)
      | c =>
        if !c.isDigit then fault .unknownOption
        if n then fault (.doubled "number")
        let digits ← takeWhile Char.isDigit
        let number := (String.ofList (c :: digits)).toNat?.getD 0
        if number = 0 then fault .numberZero
        substitutionOptions fuel { s with number } true i m

/-- The highest group that is put in. -/
def highestGroup (parts : List Replacement) : Nat :=
  parts.foldl (fun n p => match p with
    | .group m => max n m
    | _ => n) 0

/-- A substitution after its letter. -/
def substitution : EditReader EditAction := do
  match ← next? with
  | none => fault .openSubstitution
  | some mark =>
    if mark = '\n' then
      modify fun s => { s with place := s.place - 1 }
      fault .openSubstitution
    let text ← marked mark true .openSubstitution
    let new ← marked mark false .openSubstitution
    let parts := replacements (new.length + 1) new
    let (s, i, m) ← substitutionOptions ((← get).rest.length + 1) { pattern := none, parts }
      false false false
    let p ← pattern text i m
    match p with
    | some p =>
      let highest := highestGroup parts
      if p.regex.groupCount < highest then fault (.reference highest)
    | none => pure ()
    return .substitute { s with pattern := p }

/-- The characters of one side of a translation. -/
def translationSide : (fuel : Nat) → List Char → List Char
  | 0, _ => []
  | _, [] => []
  | fuel + 1, '\\' :: rest =>
    match coded? rest with
    | some (c, rest) => c :: translationSide fuel rest
    | none => match rest with
      | 'n' :: rest => '\n' :: translationSide fuel rest
      | c :: rest => c :: translationSide fuel rest
      | [] => ['\\']
  | fuel + 1, c :: rest => c :: translationSide fuel rest

/-- A translation after its letter. -/
def translation : EditReader EditAction := do
  match ← next? with
  | none => fault .openTranslation
  | some mark =>
    let old ← marked mark false .openTranslation
    let new ← marked mark false .openTranslation
    let old := translationSide (old.length + 1) old
    let new := translationSide (new.length + 1) new
    if old.length != new.length then fault .unequalTranslation
    ending
    return .translate (old.zip new)

/-- The commands of one letter that nothing belongs to. -/
def plainActions : List (Char × EditAction) :=
  [('=', .number), ('d', .delete), ('D', .deleteFirst), ('F', .name), ('g', .take),
    ('G', .takeMore), ('h', .hold), ('H', .holdMore), ('n', .next), ('N', .joinNext),
    ('p', .print), ('P', .printFirst), ('z', .clear), ('x', .exchange)]

/-- The number that may belong to a command. -/
def ownNumber? : EditReader (Option Nat) := do
  let _ ← takeWhile isGap
  match ← peek? with
  | some c => if c.isDigit then return some (← number) else return none
  | none => return none

/-- A command after its letter, without its addresses; none for comments. -/
def action (c : Char) (first second : Option LineAddress) : EditReader (Option EditAction) := do
  match plainActions.lookup c with
  | some a =>
    ending
    return some a
  | none =>
    match c with
    | '#' =>
      if first.isSome then fault .commentAddress
      let _ ← takeWhile (· != '\n')
      return none
    | 'v' =>
      let name ← labelName
      match name.toList.head? with
      | some d => if d.isDigit && '4' < d then fault .newerVersion
      | none => pure ()
      return none
    | '\x7b' =>
      modify fun s => { s with blocks := (s.commands.size, s.place) :: s.blocks }
      return some (.openBlock 0)
    | '\x7d' =>
      if (← get).blocks.isEmpty then fault .unexpectedClosing
      if first.isSome then fault .closingAddress
      ending
      modify fun s => match s.blocks with
        | (b, _) :: blocks =>
          { s with
            blocks
            commands := s.commands.modify b fun c =>
              { c with action := .openBlock s.commands.size } }
        | [] => s
      return some .closeBlock
    | ':' =>
      if first.isSome then fault .labelAddress
      let name ← labelName
      if name.isEmpty then fault .missingLabel
      modify fun s => { s with labels := s.labels ++ [(name, s.commands.size)] }
      return some .label
    | 'b' => return some (.jump (← labelName))
    | 't' => return some (.jumpIfReplaced (← labelName))
    | 'T' => return some (.jumpUnlessReplaced (← labelName))
    | 'a' => return some (.append (← commandText))
    | 'i' => return some (.insert (← commandText))
    | 'c' => return some (.change (← commandText))
    | 'e' =>
      let _ ← takeWhile isGap
      let command ← takeWhile (· != '\n')
      let _ ← next?
      return some (.run command)
    | 'q' | 'Q' =>
      if second.isSome then fault .oneAddress
      let n ← ownNumber?
      ending
      return some (if c = 'q' then .quit (n.getD 0) else .quitSilently (n.getD 0))
    | 'l' =>
      let n ← ownNumber?
      ending
      return some (.list n)
    | 'r' => return some (.appendFile (← fileName))
    | 'R' => return some (.appendLine (← fileName))
    | 'w' => return some (.write (← goal))
    | 'W' => return some (.writeFirst (← goal))
    | 's' => return some (← substitution)
    | 'y' => return some (← translation)
    | c => fault (.unknownCommand c)

/-- The addresses in front of a command, and the character that comes after them. -/
def addresses (c : Char) :
    EditReader (Option LineAddress × Option LineAddress × Option Char) := do
  match ← address? c with
  | none => return (none, none, some c)
  | some first =>
    match first with
    | .after _ | .multiple _ => fault .relativeFirst
    | _ => pure ()
    let c ← solid?
    let (second, c) ← if c = some ',' then
        match ← solid? with
        | none => fault .unexpectedComma
        | some c =>
          match ← address? c with
          | some second => pure (some second, ← solid?)
          | none => fault .unexpectedComma
      else pure (none, c)
    match first, second with
    | .line 0, some (.like _) => pure ()
    | .line 0, _ => fault .lineZero
    | _, _ => pure ()
    return (first, second, c)

/-- One command. -/
def command (c : Char) : EditReader Unit := do
  let (first, second, c) ← addresses c
  let (isNegated, c) ← if c = some '!' then do
      let c ← solid?
      if c = some '!' then fault .manyNegations
      pure (true, c)
    else pure (false, c)
  match c with
  | none => fault .missingCommand
  | some c =>
    if c = '\n' || c = ';' then fault .missingCommand
    match ← action c first second with
    | some action =>
      modify fun s => { s with commands := s.commands.push { first, second, isNegated, action } }
    | none => pure ()

/-- All commands. -/
def commands : (fuel : Nat) → EditReader Unit
  | 0 => return
  | fuel + 1 => do
    let _ ← takeWhile fun c => c = ';' || CharClass.isSpace c
    match ← next? with
    | none => return
    | some c =>
      command c
      commands fuel

end EditReader

/-- A script that has been read. -/
structure EditScript where
  commands : Array EditCommand
  labels : List (String × Nat)
  /-- The files that are written. -/
  goals : List String

/-- The script that a text writes. -/
def readEdits (isExtended : Bool) (text : List Char) :
    Except (EditFault × Nat) EditScript := do
  let (_, s) ← (EditReader.commands (text.length + 1)).run { rest := text, isExtended }
  match s.blocks with
  | (_, place) :: _ => throw (.unmatchedOpening, place)
  | [] => pure ()
  return { commands := s.commands, labels := s.labels, goals := s.goals }

end ScriptedShell.Local.Program
