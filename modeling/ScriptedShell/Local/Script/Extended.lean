/-
# Commands of the extended language

The commands that a shell of the extended language carries out itself, where they differ from those of
the standard one or are not known to it.
-/
import ScriptedShell.Local.Script.Choices
import ScriptedShell.Local.Script.Declaring
import ScriptedShell.Local.Script.Judgement

namespace ScriptedShell.Local.Script

open Files Text

namespace Extended

/-! ## Printing and asking -/

/-- Print arguments: options at the front leave the line feed out and resolve escapes. -/
def echo : Builtin := fun arguments => do
  let isOption := fun (text : String) => match text.toList with
    | '-' :: c :: cs => (c :: cs).all fun c => "neE".toList.elem c
    | _ => false
  let options := (arguments.takeWhile isOption).flatMap fun text => text.toList.drop 1
  let words := arguments.dropWhile isOption
  let text := String.intercalate " " words
  let ending := if options.elem 'n' then [] else ['\n']
  let usual ← Sh.hasChoice "xpg_echo"
  let resolves : Bool := match (options.filter (· != 'n')).getLast? with
    | some c => c = 'e'
    | none => usual
  let text := if resolves then
      let (text, stops) := resolveMore false (text.length + 1) [] text.toList
      text ++ (if stops then [] else ending)
    else text.toList ++ ending
  return if ← Sh.print (String.ofList text) then 0 else 1

/-- Print arguments in a format, or give what would be printed to a variable. -/
def printf : Builtin := fun arguments => do
  let (given, arguments) ← Usage.split "v:" arguments
  match arguments with
  | [] => Usage.refuse
  | format :: arguments =>
    let p := printfText .extended format arguments
    for (argument, objection) in p.objections do
      Sh.warn (objection.text .extended argument)
    match p.fault with
    | some fault => Sh.warn (fault.text .extended)
    | none => pure ()
    let text := String.ofList p.text.reverse
    let status := if p.fault.isSome || p.isFailed then 1 else 0
    match Usage.argument? given 'v' with
    | some name =>
      let a := Declaring.argument name
      if !Sh.isVariableName a.name then
        Sh.warn ("`" ++ name ++ "': not a valid identifier")
        return 2
      Declaring.give { a with value := some text } false
      return status
    | none => return if ← Sh.print text then status else 1

/-- The wording of why a judgement cannot be made. -/
def judgementText (words : List String) : JudgementFault → String
  | .missingAfter _ =>
    match words.drop (words.length - 2) with
    | [word, _] => if words.length ≤ 3 then word ++ ": unary operator expected"
      else "argument expected"
    | _ => "argument expected"
  | .binaryExpected word => word ++ ": binary operator expected"
  | .unaryExpected word => word ++ ": unary operator expected"
  | .extra _ => "too many arguments"
  | .badInteger text => text ++ ": integer expression expected"
  | .closingExpected none => "`)' expected"
  | .closingExpected (some found) => "`)' expected, found " ++ found

/-- Find out whether a condition holds. -/
def condition : Builtin := fun words => do
  let shell ← get
  let world := Builtin.world shell
  let further := fun (operator : String) =>
    match operator with
    | "-a" => some fun path => (world.node path).isSome
    | "-o" => some (Choices.isSet shell)
    | "-v" => some fun (text : String) =>
      let a := Declaring.argument text
      match (shell.computed? a.name).or (shell.vars.lookup a.name), a.index with
      | some v, some index => (v.asItems.get? index).isSome
      | some v, none => v.value.isSome
      | none, _ => false
    | "-R" => some fun _ => false
    | _ => none
  match Judgement.Setting.holds { world, words, further, hasOrder := true } with
  | .ok result => return if result then 0 else 1
  | .error fault => Sh.failWith 2 (judgementText words fault)

/-- Find out whether a condition in brackets holds. -/
def bracket : Builtin := fun arguments =>
  if arguments.getLast? = some "]" then condition arguments.dropLast
  else Sh.failWith 2 "missing `]'"

/-! ## Directories -/

/-- Why a directory cannot be gone to. -/
def directoryFault (shell : Shell) (path : String) : String :=
  match shell.system.tree.node shell.directory (ofOctets path) with
  | .ok (_, .directory) => "Permission denied"
  | .ok _ => "Not a directory"
  | .error fault => fault.text

/-- Go to a directory, or say why that cannot be done. -/
def goTo (target : String) (isPhysical : Bool) : Sh Unit := do
  if !target.isEmpty then
    if !(← Builtin.goTo target isPhysical) then
      Sh.fail (target ++ ": " ++ directoryFault (← get) target)

/-- Change the directory. -/
def changeDirectory : Builtin := fun arguments => do
  let (given, rest) ← Usage.split "LPe@" arguments
  let isPhysical := ((given.filter fun g => g.letter = 'L' || g.letter = 'P').getLast?.map
    (·.letter)) = some 'P'
  let valueOf := fun (name : String) => do
    match ← Sh.valueOf? name with
    | some path => return path
    | none => Sh.fail (name ++ " not set")
  let tell : Sh Nat := do Builtin.printing ((← get).path ++ "\n")
  match rest with
  | [] =>
    goTo (← valueOf "HOME") isPhysical
    return 0
  | ["-"] =>
    goTo (← valueOf "OLDPWD") isPhysical
    tell
  | [target] =>
    let listed := (← Sh.valueOf? "CDPATH").getD ""
    let search := if Builtin.isAnchored target then [] else piecesOf (· = ':') listed.toList
    for start in search do
      if !start.isEmpty then
        if ← Builtin.goTo (String.ofList start ++ "/" ++ target) isPhysical then return ← tell
    goTo target isPhysical
    return 0
  | _ => Sh.fail "too many arguments"

/-- A path where the home directory is written as a mark. -/
def withHome (shell : Shell) (path : String) : String :=
  match ((shell.vars.lookup "HOME").bind (·.value)) with
  | none => path
  | some home =>
    if path = home then "~"
    else if (home ++ "/").toList.isPrefixOf path.toList then
      "~" ++ String.ofList (path.toList.drop home.length)
    else path

/-- Print the directory and those that have been left to come back to. -/
def tellTrail : Sh Nat := do
  let shell ← get
  let paths := (shell.path :: shell.trail).map (withHome shell)
  Builtin.printing (String.intercalate " " paths ++ "\n")

/-- The number that an argument with a sign names among paths. -/
def trailIndex? (count : Nat) (text : String) : Option Nat :=
  match text.toList with
  | '+' :: digits =>
    if digits.isEmpty || !digits.all Char.isDigit then none else some (digitsValue digits)
  | '-' :: digits =>
    if digits.isEmpty || !digits.all Char.isDigit then none
    else some (count - 1 - digitsValue digits)
  | _ => none

/-- Go to a directory and remember the one that is left, or change places with it. -/
def pushDirectory : Builtin := fun arguments => do
  let shell ← get
  match arguments with
  | [] =>
    match shell.trail with
    | [] => Sh.fail "no other directory"
    | top :: others =>
      goTo top false
      modify fun now => { now with trail := shell.path :: others }
      tellTrail
  | target :: _ =>
    let all := shell.path :: shell.trail
    match trailIndex? all.length target with
    | some n =>
      if all.length ≤ n then Sh.fail (target ++ ": directory stack index out of range")
      let turned := all.drop n ++ all.take n
      goTo (turned.headD shell.path) false
      modify fun now => { now with trail := turned.drop 1 }
      tellTrail
    | none =>
      goTo target false
      modify fun now => { now with trail := shell.path :: shell.trail }
      tellTrail

/-- Go back to the directory that was left last. -/
def popDirectory : Builtin := fun _ => do
  let shell ← get
  match shell.trail with
  | [] => Sh.fail "directory stack empty"
  | top :: others =>
    goTo top false
    modify fun now => { now with trail := others }
    tellTrail

/-- Show the directories, or forget those that have been left. -/
def directories : Builtin := fun arguments => do
  let (given, _) ← Usage.split "clpv" arguments
  let shell ← get
  if Usage.has given 'c' then
    set { shell with trail := [] }
    return 0
  let shown := if Usage.has given 'l' then id else withHome shell
  let paths := (shell.path :: shell.trail).map shown
  if Usage.has given 'v' then
    Builtin.printing (String.join (paths.zipIdx.map fun (path, i) =>
      (if i < 10 then " " else "") ++ toString i ++ "  " ++ path ++ "\n"))
  else if Usage.has given 'p' then
    Builtin.printing (String.join (paths.map (· ++ "\n")))
  else Builtin.printing (String.intercalate " " paths ++ "\n")

/-! ## Numbers and arguments -/

/-- Compute expressions; the last one says whether that succeeds. -/
def compute : Builtin := fun arguments => do
  if arguments.isEmpty then Sh.fail "expression expected"
  let mut last : Int := 0
  for text in arguments do
    last ← Sh.compute Sh.maxComputed text
  return if last = 0 then 1 else 0

/-- The number that an argument writes. -/
def numberOf (text : String) : Sh Int :=
  match Arithmetic.decimal? text with
  | some n => return n
  | none => Sh.failWith 2 (text ++ ": numeric argument required")

/-- Take arguments of the script away. -/
def shift : Builtin := fun arguments => do
  let n ← match arguments with
    | [] => pure 1
    | [text] =>
      match Arithmetic.decimal? text with
      | some n => pure n
      | none => Sh.fail (text ++ ": numeric argument required")
    | _ => Sh.fail "too many arguments"
  let shell ← get
  if n < 0 then Sh.fail (toString n ++ ": shift count out of range")
  if (shell.parameters.length : Int) < n then
    if shell.choices.elem "shift_verbose" then
      Sh.fail (toString n ++ ": shift count out of range")
    return 1
  set { shell with parameters := shell.parameters.drop n.toNat }
  return 0

/-! ## Options -/

/-- Print the options and whether they are set. -/
def showOptions (asRows : Bool) : Sh Nat := do
  let shell ← get
  let lines := Choices.names.map fun (name, _) =>
    if asRows then Choices.row shell name
    else "set " ++ (if Choices.isSet shell name then "-" else "+") ++ "o " ++ name ++ "\n"
  Builtin.printing (String.join lines)

/-- Set options and arguments; what is left of the arguments replaces those of the script. -/
def setFrom : Nat → List String → Sh Nat
  | 0, _ | _, [] => return 0
  | fuel + 1, a :: rest =>
    match a.toList with
    | ['-'] => do
      let _ ← Choices.setLetter 'x' false
      let _ ← Choices.setLetter 'v' false
      if !rest.isEmpty then replace rest
      return 0
    | ['-', '-'] => do replace rest; return 0
    | sign :: c :: letters =>
      if sign = '-' || sign = '+' then do
        let isOn := sign = '-'
        let mut rest := rest
        for c in c :: letters do
          if c = 'o' then
            match rest with
            | [] => let _ ← showOptions isOn
            | name :: others =>
              if !(← Choices.setNamed name isOn) then
                Sh.failWith 2 (name ++ ": invalid option name")
              rest := others
          else if !(← Choices.setLetter c isOn) then
            Sh.warn (String.singleton sign ++ String.singleton c ++ ": invalid option")
            Usage.refuse
        setFrom fuel rest
      else do replace (a :: rest); return 0
    | _ => do replace (a :: rest); return 0
where
  /-- Give the script other arguments. -/
  replace (texts : List String) : Sh Unit :=
    modify fun shell => { shell with parameters := texts }

/-- Set options and the arguments of the script, or print all variables. -/
def set' : Builtin := fun arguments =>
  if arguments.isEmpty then Declaring.listAll else setFrom (arguments.length + 1) arguments

/-- Set options that are known by name, or show them. -/
def shopt : Builtin := fun arguments => do
  let (given, names) ← Usage.split "opqsu" arguments
  let isOption := Usage.has given 'o'
  let known := if isOption then Choices.names.map (·.1) else Choices.further
  let sets := Usage.has given 's'
  let takesBack := Usage.has given 'u'
  let shell ← get
  let row := fun (name : String) =>
    if Usage.has given 'p' then
      (if isOption then "set " ++ (if Choices.isSet shell name then "-o " else "+o ")
        else "shopt " ++ (if Choices.isSet shell name then "-s " else "-u ")) ++ name ++ "\n"
    else Choices.row shell name
  if names.isEmpty then
    let shown := known.filter fun name =>
      (!sets && !takesBack) || Choices.isSet shell name = sets
    return ← Builtin.printing (String.join (shown.map row))
  let mut status := 0
  for name in names do
    if !known.elem name then
      Sh.warn (name ++ ": invalid " ++ (if isOption then "option name" else "shell option name"))
      status := 1
    else if sets || takesBack then
      if isOption then let _ ← Choices.setNamed name sets
      else Choices.setFurther name sets
    else
      if !Usage.has given 'q' then let _ ← Sh.print (row name)
      if !Choices.isSet shell name then status := 1
  return status

/-! ## Reading -/

/-- How a line is read. -/
structure Reading where
  isRaw : Bool := false
  delimiter : Char := '\n'
  /-- The most characters that are read. -/
  most : Option Nat := none
  /-- Whether nothing but their number ends the reading. -/
  isExact : Bool := false
  deriving Repr, DecidableEq

/-- The bits of a line, whether it has ended, and the number of bytes read. -/
def lineBits (how : Reading) : Nat → (done : List Bit) → (read : Nat) → List Char →
    List Bit × Bool × Nat
  | 0, done, read, _ => (done.reverse, false, read)
  | fuel + 1, done, read, cs =>
    let taken := (done.filterMap Bit.char?).length
    if how.most.any (· ≤ taken) then (done.reverse, true, read)
    else match cs with
      | [] => (done.reverse, false, read)
      | c :: cs =>
        if c = how.delimiter && !how.isExact then (done.reverse, true, read + 1)
        else if c = '\x00' then lineBits how fuel done (read + 1) cs
        else if c = '\\' && !how.isRaw then
          match cs with
          | [] => (done.reverse, false, read + 1)
          | '\n' :: cs => lineBits how fuel done (read + 2) cs
          | d :: cs => lineBits how fuel (.char d true false :: done) (read + 2) cs
        else lineBits how fuel (.char c false true :: done) (read + 1) cs

/-- The text of the input that can be read, and its open file. -/
def inputText (stream : Nat) : Sh (Option (List Char × Nat)) := do
  let shell ← get
  match shell.streams.lookup stream with
  | none => return none
  | some file =>
    match shell.system.available file with
    | .error _ => return none
    | .ok text => return some (text, file)

/-- Read a line into variables. -/
def read : Builtin := fun arguments => do
  let (given, names) ← Usage.split "ersa:d:i:n:N:p:t:u:" arguments
  for name in names do
    if !Sh.isVariableName (Declaring.argument name).name then
      Sh.fail ("`" ++ name ++ "': not a valid identifier")
  let counted ← match (Usage.argument? given 'n').or (Usage.argument? given 'N') with
    | none => pure none
    | some text =>
      match Arithmetic.decimal? text with
      | some n => pure (some n.toNat)
      | none => Sh.fail (text ++ ": invalid number")
  let how : Reading :=
    { isRaw := Usage.has given 'r'
      delimiter := match Usage.argument? given 'd' with
        | some text => text.toList.headD '\x00'
        | none => '\n'
      most := counted, isExact := Usage.has given 'N' }
  let stream := match (Usage.argument? given 'u').bind String.toNat? with
    | some n => n
    | none => 0
  let (bits, isEnded) ← match ← inputText stream with
    | none => do
      Sh.fail ("read error: " ++ toString stream ++ ": Bad file descriptor")
    | some (text, file) =>
      let (bits, isEnded, count) := lineBits how (text.length + 1) [] 0 text
      modify fun shell => { shell with
        system := shell.system.consumed file count (text.drop count) }
      pure (bits, isEnded)
  let separators := Expansion.separators (← get)
  let whole := .border false :: bits
  let give := fun (name value : String) =>
    Declaring.give { Declaring.argument name with value := some value } false
  match Usage.argument? given 'a' with
  | some name =>
    let fields := (fieldsOf separators none whole).map bitText
    let old := ((← get).vars.lookup name).getD {}
    Sh.putVariable name (old.withItems (.ofList fields))
  | none =>
    match names with
    | [] => give "REPLY" (bitText bits)
    | names =>
      if how.isExact then
        for (name, i) in names.zipIdx do
          give name (if i = 0 then bitText bits else "")
      else
        let fields := (fieldsOf separators (some names.length) whole).map bitText
        for (name, i) in names.zipIdx do
          give name (fields[i]?.getD "")
  return if isEnded then 0 else 1

/-- The lines of a text with what ends them. -/
def linesEnding (delimiter : Char) : Nat → List Char → List (List Char)
  | 0, _ | _ + 1, [] => []
  | fuel + 1, cs =>
    match cs.span (· != delimiter) with
    | (line, d :: rest) => (line ++ [d]) :: linesEnding delimiter fuel rest
    | (line, []) => [line]

/-- Read lines into an array. -/
def readLines : Builtin := fun arguments => do
  let (given, names) ← Usage.split "d:n:O:s:tu:C:c:" arguments
  let numberOr := fun (letter : Char) (n : Nat) =>
    ((Usage.argument? given letter).bind String.toNat?).getD n
  let delimiter := match Usage.argument? given 'd' with
    | some text => text.toList.headD '\x00'
    | none => '\n'
  match ← inputText (numberOr 'u' 0) with
  | none => Sh.fail (toString (numberOr 'u' 0) ++ ": invalid file descriptor: Bad file descriptor")
  | some (text, file) =>
    let lines := linesEnding delimiter (text.length + 1) text
    let skipped := lines.drop (numberOr 's' 0)
    let most := numberOr 'n' 0
    let kept := if most = 0 then skipped else skipped.take most
    let count := (lines.take (numberOr 's' 0 + kept.length)).flatten.length
    modify fun shell => { shell with
      system := shell.system.consumed file count (text.drop count) }
    let cut := fun (line : List Char) =>
      if Usage.has given 't' && line.getLast? = some delimiter then line.dropLast else line
    let name := names.headD "MAPFILE"
    if !Sh.isVariableName name then Sh.fail ("`" ++ name ++ "': not a valid identifier")
    let old := ((← get).vars.lookup name).getD {}
    let start := numberOr 'O' 0
    let items : Items := if Usage.has given 'O' then old.asItems else {}
    let items := kept.zipIdx.foldl (fun (items : Items) (line, i) =>
      items.put (toString (start + i)) (String.ofList (cut line))) items
    Sh.putVariable name (old.withItems items)
    return 0

/-! ## Names -/

/-- The names of the commands. -/
def names : List String :=
  [".", ":", "[", "alias", "bg", "bind", "break", "builtin", "caller", "cd", "command", "compgen",
    "complete", "compopt", "continue", "declare", "dirs", "disown", "echo", "enable", "eval",
    "exec", "exit", "export", "false", "fc", "fg", "getopts", "hash", "help", "history", "jobs",
    "kill", "let", "local", "logout", "mapfile", "popd", "printf", "pushd", "pwd", "read",
    "readarray", "readonly", "return", "set", "shift", "shopt", "source", "suspend", "test",
    "times", "trap", "true", "type", "typeset", "ulimit", "umask", "unalias", "unset", "wait"]

/-- Whether a name is that of a command that can be used. -/
def isCommand (shell : Shell) (name : String) : Bool :=
  names.elem name && !shell.disabled.elem name

/-- The words that are known as keywords. -/
def keywords : List String := "]]" :: "coproc" :: reservedIn .extended

/-- What a name can stand for. -/
inductive Kind where
  | replaced (value : String)
  | keyword
  | function
  | command
  | file (path : String) (isHashed : Bool)
  deriving Repr, DecidableEq

/-- What a name stands for, the first meaning first. -/
def kindsOf (shell : Shell) (search name : String) (isAll : Bool) : List Kind :=
  let t := shell.system.tree
  let paths := if name.toList.elem '/' then
      if (canLaunch t shell.directory name).isOk then [name] else []
    else (candidates search name).filter fun path => (canLaunch t shell.directory path).isOk
  let files := paths.map fun path => Kind.file path false
  let files := match shell.hashed.lookup name with
    | some path => if isAll then files else [.file path true]
    | none => files
  ((shell.aliases.lookup name).map Kind.replaced).toList ++
    (if keywords.elem name then [.keyword] else []) ++
    (if (shell.functions.lookup name).isSome then [.function] else []) ++
    (if isCommand shell name then [.command] else []) ++ files

/-- Say in a sentence what a name stands for. -/
def sentence (shell : Shell) (name : String) : Kind → String
  | .replaced value => name ++ " is aliased to `" ++ value ++ "'"
  | .keyword => name ++ " is a shell keyword"
  | .function =>
    let body := match shell.functions.lookup name with
      | some body => "\n" ++ String.ofList (Shown.function name body).toList.dropLast
      | none => ""
    name ++ " is a function" ++ body
  | .command => name ++ " is a shell builtin"
  | .file path isHashed =>
    if isHashed then name ++ " is hashed (" ++ path ++ ")"
    else name ++ " is " ++
      (if name = path && !Path.isAbsolute path then shell.path ++ "/" ++ path else path)

/-- Say in one word what a name stands for. -/
def kindWord : Kind → String
  | .replaced _ => "alias"
  | .keyword => "keyword"
  | .function => "function"
  | .command => "builtin"
  | .file _ _ => "file"

/-- Say what names stand for. -/
def type : Builtin := fun arguments => do
  let (given, names) ← Usage.split "afptP" arguments
  let search ← Builtin.searchPath
  let mut status := 0
  for name in names do
    let shell ← get
    let isFile := fun (k : Kind) => match k with
      | .file _ _ => true
      | _ => false
    let all := kindsOf shell search name (Usage.has given 'a' || Usage.has given 'P')
    let all := if Usage.has given 'P' then all.filter isFile
      else if Usage.has given 'f' then all.filter (· != .function)
      else all
    let shown := if Usage.has given 'a' then all else all.take 1
    if shown.isEmpty then
      if !(Usage.has given 't' || Usage.has given 'p' || Usage.has given 'P') then
        Sh.warn (name ++ ": not found")
      status := 1
    for kind in shown do
      if Usage.has given 't' then let _ ← Sh.print (kindWord kind ++ "\n")
      else if Usage.has given 'p' || Usage.has given 'P' then
        match kind with
        | .file path _ => let _ ← Sh.print (path ++ "\n")
        | _ => pure ()
      else let _ ← Sh.print (sentence shell name kind ++ "\n")
  return status

/-- Say what names stand for, as a shell would use them. -/
def describe (names : List String) (search : String) (isLong : Bool) : Sh Nat := do
  let mut status := 1
  for name in names do
    let shell ← get
    match kindsOf shell search name false with
    | [] => if isLong then Sh.warn (name ++ ": not found")
    | kind :: _ =>
      status := 0
      let text := if isLong then sentence shell name kind
        else match kind with
          | .replaced value => "alias " ++ name ++ "=" ++
              String.ofList (singleQuotes value.toList)
          | .file path _ =>
            if name = path && !Path.isAbsolute path then shell.path ++ "/" ++ path else path
          | _ => name
      let _ ← Sh.print (text ++ "\n")
  return status

/-- Look for programs and remember their paths. -/
def hash : Builtin := fun arguments => do
  let (given, names) ← Usage.split "dlrtp:" arguments
  if Usage.has given 'r' then
    modify fun shell => { shell with hashed := [] }
    return 0
  let shell ← get
  if names.isEmpty then
    if shell.hashed.isEmpty then return ← Builtin.printing "hash: hash table empty\n"
    return ← Builtin.printing ("hits\tcommand\n" ++
      String.join (shell.hashed.map fun p => "   1\t" ++ p.2 ++ "\n"))
  let mut status := 0
  for name in names do
    if !isCommand shell name && (shell.functions.lookup name).isNone then
      match findProgram shell.system.tree shell.directory (← Builtin.searchPath) name with
      | .ok path => Builtin.remember name path
      | .error _ =>
        Sh.warn (name ++ ": not found")
        status := 1
  return status

/-- Print aliases or make new ones. -/
def alias' : Builtin := fun arguments => do
  let (_, arguments) ← Usage.split "p" arguments
  let shown := fun (name value : String) =>
    "alias " ++ name ++ "=" ++ String.ofList (singleQuotes value.toList) ++ "\n"
  if arguments.isEmpty then
    let all := (← get).aliases.mergeSort fun a b => a.1 ≤ b.1
    return ← Builtin.printing (String.join (all.map fun p => shown p.1 p.2))
  let mut status := 0
  for text in arguments do
    match Builtin.splitAssignment text with
    | (name, some value) =>
      modify fun shell => { shell with
        aliases := (name, value) :: shell.aliases.filter (·.1 != name) }
    | (name, none) =>
      match (← get).aliases.lookup name with
      | some value => let _ ← Sh.print (shown name value)
      | none =>
        Sh.warn (name ++ ": not found")
        status := 1
  return status

/-- Take aliases away. -/
def unalias : Builtin := fun arguments => do
  let (given, names) ← Usage.split "a" arguments
  if Usage.has given 'a' then
    modify fun shell => { shell with aliases := [] }
    return 0
  if names.isEmpty then Usage.refuse
  let mut status := 0
  for name in names do
    if ((← get).aliases.lookup name).isNone then
      Sh.warn (name ++ ": not found")
      status := 1
    modify fun shell => { shell with aliases := shell.aliases.filter (·.1 != name) }
  return status

/-- Say which commands of the shell can be used. -/
def enable : Builtin := fun arguments => do
  let (given, chosen) ← Usage.split "adnpsf:" arguments
  let isOff := Usage.has given 'n'
  if chosen.isEmpty then
    let shell ← get
    let shown := names.filter fun name => shell.disabled.elem name = isOff
    return ← Builtin.printing (String.join (shown.map fun name =>
      (if isOff then "enable -n " else "enable ") ++ name ++ "\n"))
  let mut status := 0
  for name in chosen do
    if names.elem name then
      modify fun shell =>
        let others := shell.disabled.filter (· != name)
        { shell with disabled := if isOff then name :: others else others }
    else
      Sh.warn (name ++ ": not a shell builtin")
      status := 1
  return status

/-- Print the words that begin as a text does. -/
def complete : Builtin := fun arguments => do
  let (given, rest) ← Usage.split "abcdefgjksuvo:A:G:W:F:C:X:P:S:" arguments
  let front := (rest.headD "").toList
  let words := (piecesOf (fun c => c = ' ' || c = '\n' || c = '\t')
    ((Usage.argument? given 'W').getD "").toList).filter fun w =>
      !w.isEmpty && front.isPrefixOf w
  let _ ← Sh.print (String.join (words.map fun w => String.ofList w ++ "\n"))
  return if words.isEmpty then 1 else 0

/-! ## Signals -/

/-- What is done before commands, after failures and at the ends of functions, by name. -/
def events : List (String × Nat) := [("DEBUG", 65), ("ERR", 66), ("RETURN", 67)]

/-- The number of the event that a command has failed. -/
def failureEvent : Nat := 66

/-- The name of a signal or an event as it is shown. -/
def eventName (n : Nat) : String :=
  match events.find? fun e => e.2 = n with
  | some (name, _) => name
  | none => if n = 0 then "EXIT" else "SIG" ++ Builtin.signalName n

/-- The number of the signal or event that a text names. -/
def eventOf? (text : String) (least : Nat) : Option Nat :=
  let name := Signal.capitals text
  let plain := if "SIG".toList.isPrefixOf name.toList then String.ofList (name.toList.drop 3)
    else name
  ((events.lookup name).filter fun _ => least = 0).or (Builtin.signalOf? plain least)

/-- Print what is done for signals, or say what is to be done. -/
def trap : Builtin := fun arguments => do
  let (given, arguments) ← Usage.split "lp" arguments
  let show' := fun (wanted : List Nat) => do
    let all := (← get).traps.mergeSort fun a b => a.1 ≤ b.1
    let all := all.filter fun p => wanted.isEmpty || wanted.elem p.1
    Builtin.printing (String.join (all.map fun (n, action) =>
      "trap -- " ++ String.ofList (singleQuotes action.toList) ++ " " ++ eventName n ++ "\n"))
  match arguments with
  | [] => show' []
  | first :: others =>
    if Usage.has given 'p' then
      return ← show' (arguments.filterMap fun name => eventOf? name 0)
    let isReset := others.isEmpty || (!first.isEmpty && first.toList.all Char.isDigit)
    if others.isEmpty && (eventOf? first 0).isNone then Usage.refuse
    let action := if isReset || first = "-" then none else some first
    let mut status := 0
    for name in if isReset then first :: others else others do
      match eventOf? name 0 with
      | none =>
        Sh.warn (name ++ ": invalid signal specification")
        status := 1
      | some n =>
        modify fun shell =>
          let traps := shell.traps.filter (·.1 != n)
          { shell with traps := match action with
              | some text => (n, text) :: traps
              | none => traps }
    return status

/-- All signals in columns. -/
def signalColumns : String :=
  let shown := (List.range (Builtin.maxSignal + 1)).filter fun n => n != 0 && n != 32 && n != 33
  let cell := fun (n : Nat) => (if n < 10 then " " else "") ++ toString n ++ ") SIG" ++
    (if n = 16 then "STKFLT" else Builtin.signalName n)
  String.join (shown.zipIdx.map fun (n, i) =>
    cell n ++ (if i % 5 = 4 then "\n" else "\t")) ++ "\n"

/-- Send signals. -/
def kill : Builtin := fun arguments => do
  let wrong := fun (name : String) => Sh.fail (name ++ ": invalid signal specification")
  let (signal, isList, targets) ← match arguments with
    | [] => Usage.refuse
    | "-l" :: rest | "-L" :: rest => pure (15, true, rest)
    | "-s" :: name :: rest | "-n" :: name :: rest =>
      match eventOf? name 1 with
      | some n => pure (n, false, rest)
      | none => if name = "0" then pure (0, false, rest) else wrong name
    | "--" :: rest => pure (15, false, rest)
    | first :: rest =>
      match first.toList with
      | '-' :: c :: cs =>
        let name := String.ofList (c :: cs)
        match eventOf? name 1 with
        | some n => pure (n, false, rest)
        | none => if name = "0" then pure (0, false, rest) else wrong name
      | _ => pure (15, false, first :: rest)
  if isList then
    if targets.isEmpty then return ← Builtin.printing signalColumns
    let mut status := 0
    for text in targets do
      match text.toNat? with
      | some n =>
        let n := if 128 < n then n - 128 else n
        if n ≤ Builtin.maxSignal then let _ ← Sh.print (Builtin.signalName n ++ "\n")
        else
          Sh.warn (text ++ ": invalid signal specification")
          status := 1
      | none =>
        match eventOf? text 0 with
        | some n => let _ ← Sh.print (toString n ++ "\n")
        | none =>
          Sh.warn (text ++ ": invalid signal specification")
          status := 1
    return status
  if targets.isEmpty then Usage.refuse
  let mut status := 1
  for text in targets do
    if text.toList.head? = some '%' then
      let job ← Builtin.jobNamed text
      if ← Builtin.sendTo job.process signal then status := 0
    else match Arithmetic.decimal? text with
      | none => Sh.warn (text ++ ": arguments must be process or job IDs")
      | some n =>
        if ← Builtin.sendTo n.natAbs signal then status := 0
        else Sh.warn ("(" ++ text ++ ") - No such process")
  return status

/-- Print how long the script has taken. -/
def times : Builtin := fun _ => Builtin.printing "0m0.000s 0m0.000s\n0m0.000s 0m0.000s\n"

/-- The commands that run no other ones, by name; those that are not listed are those of the standard
language. -/
def table : List (String × Builtin) :=
  [("echo", echo), ("printf", printf), ("test", condition), ("[", bracket),
    ("cd", changeDirectory), ("pushd", pushDirectory), ("popd", popDirectory),
    ("dirs", directories), ("let", compute), ("shift", shift), ("set", set'), ("shopt", shopt),
    ("read", read), ("mapfile", readLines), ("readarray", readLines), ("type", type),
    ("hash", hash), ("alias", alias'), ("unalias", unalias), ("enable", enable), ("trap", trap),
    ("kill", kill), ("times", times), ("declare", Declaring.declare),
    ("typeset", Declaring.declare), ("local", Declaring.local'), ("export", Declaring.export'),
    ("readonly", Declaring.readonly), ("unset", Declaring.unset), ("compgen", complete),
    ("caller", fun _ => return 1), ("bind", fun _ => return 0), ("history", fun _ => return 0),
    ("disown", fun _ => return 0), ("complete", fun _ => return 0),
    ("compopt", fun _ => return 1), ("fc", fun _ => return 0),
    ("help", fun _ => return 0), ("suspend", fun _ => Sh.fail "cannot suspend: no job control"),
    ("logout", fun _ => Sh.fail "not login shell: use `exit'")]

end Extended

end ScriptedShell.Local.Script
