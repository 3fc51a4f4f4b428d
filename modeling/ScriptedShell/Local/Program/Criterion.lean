/-
# Criteria

What a search for files asks of each one, and what is done with it: tests and actions, which words
join to larger ones.  The words for "and" bind closer than those for "or", and a comma has both
sides done.
-/
import ScriptedShell.Local.Program.Amount
import ScriptedShell.Local.Program.Remove
import ScriptedShell.Local.Program.Select

namespace ScriptedShell.Local.Program

open Act Files Text

/-! ## Parts -/

/-- How a number is compared with one that is asked for. -/
inductive Bound where
  | exactly (n : Nat)
  | more (n : Nat)
  | less (n : Nat)
  deriving Repr, DecidableEq

/-- Whether a number is as asked for. -/
def Bound.allows : Bound → Nat → Bool
  | exactly n, m => m = n
  | more n, m => n < m
  | less n, m => m < n

/-- The bound that a text writes. -/
def bound? (text : String) : Option Bound :=
  match text.toList with
  | '+' :: digits => (natural? (String.ofList digits)).map .more
  | '-' :: digits => (natural? (String.ofList digits)).map .less
  | digits => (natural? (String.ofList digits)).map .exactly

/-- How permissions are compared with some that are asked for. -/
inductive ModeBound where
  | exactly (mode : Nat)
  | all (mode : Nat)
  | any (mode : Nat)
  deriving Repr, DecidableEq

/-- Whether permissions are as asked for. -/
def ModeBound.allows : ModeBound → Nat → Bool
  | exactly mode, m => m = mode
  | all mode, m => Nat.land m mode = mode
  | any mode, m => mode = 0 || Nat.land m mode != 0

/-- What is asked of a file. -/
inductive Test where
  | always (answer : Bool)
  | name (pattern : String) (ignoresCase : Bool)
  | path (pattern : String) (ignoresCase : Bool)
  /-- What a link leads to. -/
  | target (pattern : String) (ignoresCase : Bool)
  | like (expression : Regex) (ignoresCase : Bool)
  /-- The kind of the file; `isOther` asks for the link where the search follows links, and for what
  it leads to where it does not. -/
  | kind (letters : List Char) (isOther : Bool)
  | size (bound : Bound) (unit : Nat)
  | empty
  | mode (bound : ModeBound)
  /-- Whether the file has changed after a change. -/
  | changedAfter (change : Nat)
  | owner (bound : Bound)
  | links (bound : Bound)
  | same (place : Place)
  | allowed (letter : Char)
  deriving Repr

/-- A part of a form that files are printed in. -/
inductive FormPart where
  | text (text : String)
  | fact (flags width : List Char) (most : Option Nat) (letter : Char)
  /-- Nothing that comes later is printed. -/
  | cut
  deriving Repr

/-- How a file is printed. -/
inductive FoundForm where
  | path (ending : String)
  | long
  | parts (parts : List FormPart)
  deriving Repr

/-- A program that is run for files. -/
structure Errand where
  command : List String
  /-- Whether it runs in the directory of the file. -/
  isInside : Bool := false
  /-- Whether the user is asked before. -/
  asks : Bool := false
  deriving Repr, DecidableEq

/-- What is done with a file. -/
inductive FoundAction where
  | print (form : FoundForm) (goal : Option String)
  | run (errand : Errand)
  /-- Keep the file for a program that is run for many files. -/
  | keep (errand : Errand)
  | delete
  | prune
  | quit
  deriving Repr

/-- What a search is for. -/
inductive Criterion where
  | test (t : Test)
  | act (a : FoundAction)
  | no (c : Criterion)
  | both (a b : Criterion)
  | either (a b : Criterion)
  /-- Both are done, and the second one decides. -/
  | after (a b : Criterion)
  deriving Repr

/-! ## Signs -/

/-- What criteria are written with. -/
inductive Sign where
  | part (c : Criterion)
  | no (word : String)
  | join (word : String)
  | opening
  /-- A closing bracket; one that nobody has written stands at the end of everything. -/
  | closing (isWritten : Bool)
  deriving Repr

/-- Whether something can end before a sign that begins something. -/
def Sign.isEnd : Sign → Bool
  | .part _ | .closing _ => true
  | _ => false

/-- Whether a sign begins something. -/
def Sign.isBegin : Sign → Bool
  | .part _ | .opening | .no _ => true
  | _ => false

/-- Signs with the word for "and" between what stands side by side. -/
def withJoins : List Sign → List Sign
  | a :: b :: rest =>
    if a.isEnd && b.isBegin then a :: .join "-a" :: withJoins (b :: rest)
    else a :: withJoins (b :: rest)
  | signs => signs

/-- What is wrong with the order of signs. -/
inductive SignFault where
  | nothing
  | nothingBefore (word : String)
  | nothingUntilClosing (word : String)
  | nothingAfter (word : String)
  | tooManyClosing
  | leftOver
  | openAtEnd
  | emptyGroup
  | unclosed
  deriving Repr, DecidableEq

/-- The wording of a fault. -/
def SignFault.text : SignFault → String
  | nothing => "invalid expression"
  | nothingBefore word =>
    "invalid expression; you have used a binary operator '" ++ word ++ "' with nothing before it."
  | nothingUntilClosing word => "expected an expression between '" ++ word ++ "' and ')'"
  | nothingAfter word => "expected an expression after '" ++ word ++ "'"
  | tooManyClosing => "invalid expression; you have too many ')'"
  | leftOver => "you have too many ')'"
  | openAtEnd =>
    "invalid expression; expected to find a ')' but didn't see one. " ++
      "Perhaps you need an extra predicate after '('"
  | emptyGroup => "invalid expression; empty parentheses are not allowed."
  | unclosed =>
    "invalid expression; I was expecting to find a ')' somewhere but did not see one."

/-- How close a joining word binds. -/
def rankOf (word : String) : Nat :=
  if word = "," then 1 else if word = "-o" || word = "-or" then 2 else 3

/-- Two criteria joined by a word. -/
def joined (word : String) (a b : Criterion) : Criterion :=
  if word = "," then .after a b else if rankOf word = 2 then .either a b else .both a b

mutual

/-- The criterion at the front of signs, with all joins of a higher rank; `before` is the word in
front of it. -/
def readCriterion : (fuel rank : Nat) → (before : Option String) → List Sign →
    Except SignFault (Criterion × List Sign)
  | 0, _, _, _ => .error .nothing
  | _ + 1, _, _, [] => .error .nothing
  | fuel + 1, rank, before, sign :: rest => do
    let (first, rest) ← match sign with
      | .part c => pure (c, rest)
      | .join word => .error (.nothingBefore word)
      | .closing isWritten =>
        match before, isWritten with
        | some word, true => .error (.nothingUntilClosing word)
        | some word, false => .error (.nothingAfter word)
        | none, _ => .error .tooManyClosing
      | .no word => do
        let (c, rest) ← readCriterion fuel 4 (some word) rest
        pure (Criterion.no c, rest)
      | .opening =>
        match rest with
        | [] | .closing false :: _ => .error .openAtEnd
        | .closing true :: _ => .error .emptyGroup
        | _ =>
          let (c, rest) ← readCriterion fuel 0 none rest
          match rest with
          | .closing _ :: rest => pure (c, rest)
          | _ => .error .unclosed
    goOnCriterion fuel rank first rest

/-- A criterion with the joins that follow it. -/
def goOnCriterion : (fuel rank : Nat) → Criterion → List Sign →
    Except SignFault (Criterion × List Sign)
  | 0, _, _, _ => .error .nothing
  | fuel + 1, rank, first, signs =>
    match signs with
    | .join word :: rest =>
      if rank < rankOf word then do
        let (second, rest) ← readCriterion fuel (rankOf word) (some word) rest
        goOnCriterion fuel rank (joined word first second) rest
      else .ok (first, signs)
    | _ => .ok (first, signs)

end

/-- The criterion that signs write.  Where they print nothing, each file that is found is
printed. -/
def criterionOf (signs : List Sign) (printsItself : Bool) : Except SignFault Criterion := do
  let print := Sign.part (.act (.print (.path "\n") none))
  let whole := if signs.isEmpty then [print]
    else if printsItself then signs
    else .opening :: signs ++ [.closing false, print]
  let whole := withJoins whole
  let (c, rest) ← readCriterion (4 * whole.length + 8) 0 none whole
  if rest.isEmpty then return c else throw .leftOver

/-! ## Forms -/

/-- The character that a letter after a backslash stands for in a form. -/
def formEscape? : Char → Option Char
  | 'a' => some '\x07'
  | 'b' => some '\x08'
  | 'f' => some '\x0c'
  | 'n' => some '\n'
  | 'r' => some '\r'
  | 't' => some '\t'
  | 'v' => some '\x0b'
  | '\\' => some '\\'
  | _ => none

/-- The letters that ask for facts of files. -/
def factLetters : List Char := "abcdDfFgGhHiklmMnpPsStuUyYZ".toList

/-- The parts of a form, with warnings about them; nothing if it has a fault, which is the last
warning. -/
def formParts : (fuel : Nat) → List Char → List String × Option (List FormPart)
  | 0, _ => ([], some [])
  | _, [] => ([], some [])
  | fuel + 1, c :: cs =>
    let also := fun (warnings : List String) (part : FormPart) (rest : List Char) =>
      let (more, parts) := formParts fuel rest
      (warnings ++ more, parts.map (part :: ·))
    let text := fun (text : List Char) => FormPart.text (String.ofList text)
    match c, cs with
    | '\\', [] => also ["warning: escape `\\' followed by nothing at all"] (text ['\\']) []
    | '\\', 'c' :: _ => ([], some [.cut])
    | '\\', d :: rest =>
      let isOctal := fun (c : Char) => '0' ≤ c && c ≤ '7'
      if isOctal d then
        let digits := (cs.take 3).takeWhile isOctal
        let n := digits.foldl (fun n c => 8 * n + (c.toNat - '0'.toNat)) 0
        also [] (text [Char.ofNat (n % 256)]) (cs.drop digits.length)
      else match formEscape? d with
        | some e => also [] (text [e]) rest
        | none =>
          also ["warning: unrecognized escape `\\" ++ String.singleton d ++ "'"]
            (text ['\\', d]) rest
    | '%', '%' :: rest => also [] (text ['%']) rest
    | '%', _ =>
      let (flags, after) := cs.span fun c => "-+ #0".toList.elem c
      let (width, after) := after.span Char.isDigit
      let (most, after) := match after with
        | '.' :: more =>
          let (digits, after) := more.span Char.isDigit
          (some ((String.ofList digits).toNat?.getD 0), after)
        | after => (none, after)
      match after with
      | [] => (["error: % at end of format string"], none)
      | l :: rest =>
        if l = '\x7b' || l = '[' || l = '(' then
          (["error: the format directive `%" ++ String.singleton l ++
            "' is reserved for future use"], none)
        else if l = 'A' || l = 'B' || l = 'C' || l = 'T' then
          match rest with
          | [] =>
            also ["warning: format directive `%" ++ String.singleton l ++
              "' should be followed by another character"] (text ['%', l]) []
          | k :: rest => also [] (.fact flags width most (if k = '@' then '@' else 'T')) rest
        else if factLetters.elem l then also [] (.fact flags width most l) rest
        else
          also ["warning: unrecognized format directive `%" ++ String.singleton l ++ "'"]
            (text ('%' :: flags ++ width ++ [l])) rest
    | c, _ =>
      let (plain, rest) := cs.span fun c => c != '%' && c != '\\'
      also [] (text (c :: plain)) rest

/-! ## Expressions for paths -/

/-- The grammars by their names: whether signs for repetitions stand by themselves, and, if so,
whether all signs do. -/
inductive PathGrammar where
  /-- Groups and alternatives have a backslash before them, repetitions have none. -/
  | mixed
  | basic
  | extended
  deriving Repr, DecidableEq

/-- The grammars by their names. -/
def pathGrammars : List (String × PathGrammar) :=
  [("findutils-default", .mixed), ("ed", .basic), ("emacs", .mixed), ("gnu-awk", .extended),
    ("grep", .basic), ("posix-awk", .extended), ("awk", .extended), ("posix-basic", .basic),
    ("posix-egrep", .extended), ("egrep", .extended), ("posix-extended", .extended),
    ("posix-minimal-basic", .basic), ("sed", .basic)]

/-- An expression of the mixed grammar in the basic one. -/
def basicOfMixed : (fuel : Nat) → List Char → List Char
  | 0, _ => []
  | _, [] => []
  | fuel + 1, '\\' :: c :: rest =>
    (if c = '+' || c = '?' then ['[', c, ']']
      else if c = '\x7b' || c = '\x7d' then [c] else ['\\', c]) ++ basicOfMixed fuel rest
  | fuel + 1, '[' :: rest =>
    let (front, rest) := match rest with
      | '^' :: ']' :: rest => (['^', ']'], rest)
      | ']' :: rest => ([']'], rest)
      | rest => ([], rest)
    let (inside, rest) := rest.span (· != ']')
    '[' :: front ++ inside ++ rest.take 1 ++ basicOfMixed fuel (rest.drop 1)
  | fuel + 1, c :: rest =>
    (if c = '+' || c = '?' then ['\\', c] else [c]) ++ basicOfMixed fuel rest

/-- The expression that a text writes in a grammar. -/
def PathGrammar.read (g : PathGrammar) (text : List Char) : Except RegexFault Regex :=
  match g with
  | .mixed => Regex.read {} (basicOfMixed (text.length + 1) text)
  | .basic => Regex.read {} text
  | .extended => Regex.read { isExtended := true } text

/-! ## Reading -/

/-- What a search is asked for, as far as its words have been read. -/
structure Asked where
  words : List String
  /-- The paths where the search begins. -/
  starts : List String := []
  grammar : PathGrammar := .mixed
  most : Option Nat := none
  least : Nat := 0
  /-- Whether what is inside a directory comes before the directory. -/
  isInnerFirst : Bool := false
  follows : Bool := false
  printsItself : Bool := false

/-- Reading the words of a search. -/
abbrev Asking := StateT Asked Act

/-- Whether a word looks like a part of a criterion; in front of all others, a closing bracket or a
comma does not. -/
def isCriterionWord (isFirst : Bool) (word : String) : Bool :=
  match word.toList with
  | '-' :: _ :: _ => true
  | [c] => c = '(' || c = '!' || ((c = ')' || c = ',') && !isFirst)
  | _ => false

/-- Complain and end. -/
def refuseSearch (text : String) : Asking α := do
  complain text
  quit 1

/-- The next word, which belongs to a word before. -/
def nextWord (word : String) : Asking String := do
  match (← get).words with
  | w :: ws =>
    modify fun s => { s with words := ws }
    return w
  | [] => refuseSearch ("missing argument to `" ++ word ++ "'")

/-- Complain about what belongs to a word. -/
def refuseWord (word value : String) : Asking α :=
  refuseSearch ("invalid argument `" ++ value ++ "' to `" ++ word ++ "'")

/-- The number that belongs to a word. -/
def nextBound (word : String) : Asking Bound := do
  let value ← nextWord word
  match bound? value with
  | some b => return b
  | none => refuseWord word value

/-- The units of sizes. -/
def sizeUnit? : Char → Option Nat
  | 'b' => some 512
  | 'c' => some 1
  | 'w' => some 2
  | 'k' => some 1024
  | 'M' => some (Nat.pow 1024 2)
  | 'G' => some (Nat.pow 1024 3)
  | _ => none

/-- The test of sizes that belongs to a word. -/
def nextSize (word : String) : Asking Test := do
  let value ← nextWord word
  let cs := value.toList
  let number := fun (cs : List Char) => bound? (String.ofList cs)
  match cs.getLast? with
  | none => refuseSearch ("invalid null argument to " ++ word)
  | some last =>
    if last.isDigit then
      match number cs with
      | some b => return .size b 512
      | none => refuseSearch ("Invalid argument `" ++ value ++ "' to " ++ word)
    else match sizeUnit? last with
      | none => refuseSearch ("invalid " ++ word ++ " type `" ++ String.singleton last ++ "'")
      | some unit =>
        match number cs.dropLast with
        | some b => return .size b unit
        | none => refuseSearch ("Invalid argument `" ++ value ++ "' to " ++ word)

/-- The letters of kinds of files, with commas between them. -/
def kindLetters (word : String) : List Char → List Char → Asking (List Char)
  | found, [] => return found
  | found, c :: rest => do
    if !("bcdflps".toList.elem c) then
      refuseSearch ("Unknown argument to " ++ word ++ ": " ++ String.singleton c)
    if found.elem c then
      refuseSearch ("Duplicate file type '" ++ String.singleton c ++ "' in the argument list to " ++
        word ++ ".")
    match rest with
    | [] => return c :: found
    | [','] =>
      refuseSearch ("Last file type in list argument to " ++ word ++
        " is missing, i.e., list is ending on: ','")
    | ',' :: rest => kindLetters word (c :: found) rest
    | _ => refuseSearch ("Must separate multiple arguments to " ++ word ++ " using: ','")

/-- The test of kinds that belongs to a word. -/
def nextKind (word : String) (isOther : Bool) : Asking Test := do
  let value ← nextWord word
  if value.isEmpty then
    refuseSearch ("Arguments to " ++ word ++ " should contain at least one letter")
  return .kind (← kindLetters word [] value.toList) isOther

/-- The test of permissions that belongs to a word. -/
def nextMode (word : String) : Asking Test := do
  let value ← nextWord word
  let read := fun (cs : List Char) => do
    if cs.head? = some '+' then none
    let change ← modeChange? (String.ofList cs)
    return change.apply false 0 0
  let found := match value.toList with
    | '-' :: cs => (read cs).map ModeBound.all
    | '/' :: cs => (read cs).map ModeBound.any
    | cs => (read cs).map ModeBound.exactly
  match found with
  | some b =>
    if b = .any 0 then
      complain ("warning: you have specified a mode pattern " ++ value ++
        " (which is equivalent to /000). The meaning of -perm /000 has now been changed to be " ++
        "consistent with -perm -000; that is, while it used to match no files, it now matches " ++
        "all files.")
    return .mode b
  | none => refuseSearch ("invalid mode " ++ Named.escaped value)

/-- The change of the file that belongs to a word. -/
def nextPlace (word : String) : Asking (Place × Node) := do
  let value ← nextWord word
  let found ← linkNode value
  match found with
  | .ok found => return found
  | .error fault => refuseSearch (Named.escaped value ++ ": " ++ fault.text)

/-- The number of days or minutes that belongs to a word: everything has changed just now. -/
def nextAge (word : String) (now : Nat) : Asking Test := do
  let value ← nextWord word
  match bound? value with
  | some (.exactly n) => return .always (n = now)
  | some (.more n) => return .always (now = 1 && n = 0)
  | some (.less n) => return .always (0 < n)
  | none => refuseWord word value

/-- The expression for paths that belongs to a word. -/
def nextExpression (word : String) (ignoresCase : Bool) : Asking Test := do
  let value ← nextWord word
  match (← get).grammar.read value.toList with
  | .ok r => return .like r ignoresCase
  | .error fault =>
    refuseSearch ("failed to compile regular expression '" ++ value ++ "': " ++ fault.text)

/-- The depth that belongs to a word. -/
def nextDepth (word : String) : Asking Nat := do
  let value ← nextWord word
  match natural? value with
  | some n => return n
  | none =>
    refuseSearch ("Expected a positive decimal integer argument to " ++ word ++ ", but got " ++
      Named.escaped value)

/-- The name of a user or a group that belongs to a word; the user of the machine is the only
one. -/
def nextOwner (word kind : String) : Asking Test := do
  let value ← nextWord word
  if value = "root" then return .owner (.exactly 0)
  match natural? value with
  | some n => return .owner (.exactly n)
  | none => refuseSearch (Named.escaped value ++ " is not the name of " ++ kind)

/-- The file that something is printed to, which is made now. -/
def nextGoal (word : String) : Asking String := do
  let value ← nextWord word
  let fault ← if (streamAt? value).isSome then pure none else writePath value []
  match fault with
  | none => return value
  | some fault => refuseSearch (Named.escaped value ++ ": " ++ fault.text)

/-- The form that belongs to a word. -/
def nextForm (word : String) : Asking FoundForm := do
  let value ← nextWord word
  let (warnings, parts) := formParts (value.length + 1) value.toList
  for w in warnings do complain w
  match parts with
  | some parts => return .parts parts
  | none => quit 1

/-- The words of a command up to its end, whether it is run for many files, and what follows. -/
def commandWords (canGather : Bool) : (done : List String) → List String →
    Option (List String × Bool × List String)
  | _, [] => none
  | done, w :: ws =>
    if w = ";" then some (done.reverse, false, ws)
    else if canGather && w = "+" && done.head?.any (contains · "\x7b\x7d") then
      some (done.reverse, true, ws)
    else commandWords canGather (w :: done) ws

/-- The program that belongs to a word. -/
def nextErrand (word : String) (isInside asks : Bool) : Asking FoundAction := do
  match commandWords (!asks) [] (← get).words with
  | none => refuseSearch ("missing argument to `" ++ word ++ "'")
  | some ([], _, _) => refuseWord word ";"
  | some (command, false, rest) =>
    modify fun s => { s with words := rest }
    return .run { command, isInside, asks }
  | some (command, true, rest) =>
    modify fun s => { s with words := rest }
    let named := command.filter (contains · "\x7b\x7d")
    let dir := if isInside then "dir" else ""
    if 1 < named.length then
      refuseSearch ("Only one instance of \x7b\x7d is supported with -exec" ++ dir ++ " ... +")
    let last := (command.getLast?).getD ""
    if last != "\x7b\x7d" then
      refuseSearch ("In '-exec" ++ dir ++ " ... \x7b\x7d +' the '\x7b\x7d' must appear by itself, " ++
        "but you specified '" ++ last ++ "'")
    return .keep { command := command.dropLast, isInside }

/-- The tests without anything that belongs to them. -/
def plainTests : List (String × Test) :=
  [("-true", .always true), ("-false", .always false), ("-empty", .empty),
    ("-readable", .allowed 'r'), ("-writable", .allowed 'w'), ("-executable", .allowed 'x'),
    ("-nouser", .always false), ("-nogroup", .always false), ("-noleaf", .always true),
    ("-mount", .always true), ("-xdev", .always true), ("-warn", .always true),
    ("-nowarn", .always true), ("-daystart", .always true),
    ("-ignore_readdir_race", .always true), ("-noignore_readdir_race", .always true)]

/-- The test that a word stands for, if it stands for one. -/
def readTest (word : String) : Asking (Option Test) := do
  match plainTests.lookup word with
  | some t => return some t
  | none =>
    match word with
    | "-name" => return some (.name (← nextWord word) false)
    | "-iname" => return some (.name (← nextWord word) true)
    | "-path" | "-wholename" =>
      let value ← nextWord word
      let isStart := (← get).starts.any fun start => isLike [value] start
      if Tree.endsWithSlash value && !isStart then
        complain ("warning: " ++ word ++ " " ++ value ++
          " will not match anything because it ends with /.")
      return some (.path value false)
    | "-ipath" | "-iwholename" => return some (.path (← nextWord word) true)
    | "-lname" => return some (.target (← nextWord word) false)
    | "-ilname" => return some (.target (← nextWord word) true)
    | "-regex" => return some (← nextExpression word false)
    | "-iregex" => return some (← nextExpression word true)
    | "-type" => return some (← nextKind word false)
    | "-xtype" => return some (← nextKind word true)
    | "-size" => return some (← nextSize word)
    | "-perm" => return some (← nextMode word)
    | "-links" => return some (.links (← nextBound word))
    | "-uid" | "-gid" => return some (.owner (← nextBound word))
    | "-inum" =>
      let b ← nextBound word
      return some (.always (b.allows 1))
    | "-used" =>
      let b ← nextBound word
      return some (.always (b.allows 0))
    | "-user" => return some (← nextOwner word "a known user")
    | "-group" => return some (← nextOwner word "an existing group")
    | "-newer" | "-anewer" | "-cnewer" =>
      let (place, _) ← nextPlace word
      let t ← tree
      return some (.changedAfter (t.changedAt place))
    | "-samefile" => return some (.same (← nextPlace word).1)
    | "-mtime" | "-atime" | "-ctime" => return some (← nextAge word 0)
    | "-mmin" | "-amin" | "-cmin" => return some (← nextAge word 1)
    | "-fstype" =>
      let _ ← nextWord word
      return some (.always false)
    | "-maxdepth" =>
      let n ← nextDepth word
      modify fun s => { s with most := some n }
      return some (.always true)
    | "-mindepth" =>
      let n ← nextDepth word
      modify fun s => { s with least := n }
      return some (.always true)
    | "-depth" | "-d" =>
      modify fun s => { s with isInnerFirst := true }
      return some (.always true)
    | "-follow" =>
      modify fun s => { s with follows := true }
      return some (.always true)
    | "-regextype" =>
      let value ← nextWord word
      match pathGrammars.lookup value with
      | some grammar =>
        modify fun s => { s with grammar }
        return some (.always true)
      | none =>
        refuseSearch ("Unknown regular expression type " ++ Named.escaped value ++
          "; valid types are " ++
          String.intercalate ", " (pathGrammars.map fun p => "'" ++ p.1 ++ "'") ++ ".")
    | word =>
      match word.toList with
      | ['-', 'n', 'e', 'w', 'e', 'r', x, y] =>
        if !("aBcm".toList.elem x) || !("aBcmt".toList.elem y) then
          refuseSearch ("invalid predicate `" ++ word ++ "'")
        if y = 't' then
          let value ← nextWord word
          if !(value.toList.head?.any Char.isDigit) then
            refuseSearch ("I cannot figure out how to interpret " ++ Named.escaped value ++
              " as a date or time")
          return some (.always true)
        let (place, _) ← nextPlace word
        let t ← tree
        return some (.changedAfter (t.changedAt place))
      | _ => return none

/-- The action that a word stands for, if it stands for one. -/
def readAction (word : String) : Asking (Option FoundAction) := do
  match word with
  | "-print" => return some (.print (.path "\n") none)
  | "-print0" => return some (.print (.path "\x00") none)
  | "-ls" => return some (.print .long none)
  | "-printf" => return some (.print (← nextForm word) none)
  | "-fprint" => return some (.print (.path "\n") (some (← nextGoal word)))
  | "-fprint0" => return some (.print (.path "\x00") (some (← nextGoal word)))
  | "-fls" => return some (.print .long (some (← nextGoal word)))
  | "-fprintf" =>
    let words := (← get).words
    if words.length = 1 then refuseWord word (words.head?.getD "")
    let goal ← nextGoal word
    return some (.print (← nextForm word) (some goal))
  | "-exec" => return some (← nextErrand word false false)
  | "-execdir" => return some (← nextErrand word true false)
  | "-ok" => return some (← nextErrand word false true)
  | "-okdir" => return some (← nextErrand word true true)
  | "-delete" =>
    modify fun s => { s with isInnerFirst := true }
    return some .delete
  | "-prune" => return some .prune
  | "-quit" => return some .quit
  | _ => return none

/-- Whether something that is done with files takes the place of printing them. -/
def FoundAction.printsItself : FoundAction → Bool
  | .prune | .quit => false
  | _ => true

/-- The sign that a word stands for. -/
def readSign (word : String) : Asking Sign := do
  match word with
  | "(" => return .opening
  | ")" => return .closing true
  | "!" | "-not" => return .no word
  | "," | "-a" | "-and" | "-o" | "-or" => return .join word
  | _ =>
    match ← readTest word with
    | some t => return .part (.test t)
    | none =>
      match ← readAction word with
      | some a =>
        if a.printsItself then modify fun s => { s with printsItself := true }
        return .part (.act a)
      | none => refuseSearch ("unknown predicate `" ++ word ++ "'")

/-- The signs that words stand for; `before` is the last word that has been read. -/
def readSigns : (fuel : Nat) → (before : String) → Asking (List Sign)
  | 0, _ => return []
  | fuel + 1, before => do
    match (← get).words with
    | [] => return []
    | word :: rest =>
      if !isCriterionWord false word then
        complain ("paths must precede expression: `" ++ word ++ "'")
        let found ← node word
        if found.isOk then
          complain ("possible unquoted pattern after predicate `" ++ before ++ "'?")
        quit 1
      modify fun s => { s with words := rest }
      let sign ← readSign word
      return sign :: (← readSigns fuel word)

end ScriptedShell.Local.Program
