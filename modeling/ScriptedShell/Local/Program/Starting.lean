/-
# Starting other programs

Programs that start others: in another environment, with arguments from their input, or for a
limited time.
-/
import ScriptedShell.Local.Launch
import ScriptedShell.Local.Program.Print
import ScriptedShell.Local.Signal

namespace ScriptedShell.Local.Program

open Act Files Text

/-! ## Starting -/

/-- The shell that runs scripts of unknown format. -/
def scriptShell : String := "dash"

/-- What is launched for a name and arguments; a file of unknown format is a script. -/
def launchFor (task : Task) (t : Tree) (name : String) (arguments : List String) :
    Except FileFault Launch :=
  let search := (task.environment.lookup "PATH").getD defaultSearch
  let script := fun (path : String) => (⟨scriptShell, "/bin/sh", path :: arguments⟩ : Launch)
  let path := if name.toList.elem '/' then .ok name
    else if name.isEmpty then .error .missing
    else findProgram t task.directory search name
  match path with
  | .error fault => .error fault
  | .ok path =>
    match launch t task.directory path name arguments with
    | .ok l => .ok l
    | .error .noFormat => .ok (script path)
    | .error (.file fault) => .error fault

/-- Run a program in the place of this one, as a task that differs a little: how it has ended, or
why it cannot be run. -/
def become (run : Runner) (change : Task → Task) (name : String) (arguments : List String) :
    Act (Except FileFault Ended) := do
  let task := change (← read)
  match launchFor task (← tree) name arguments with
  | .error fault => return .error fault
  | .ok l =>
    let (ended, system) := run l.program { task with name := l.name, arguments := l.arguments }
      (← get)
    set system
    return .ok ended

/-- Run a program as a task of its own. -/
def start (run : Runner) (change : Task → Task) (name : String) (arguments : List String) :
    Act (Except FileFault Ended) := do
  let task ← read
  let (process, system) := (← get).newProcess
  set system
  become run (fun t => change { t with process, parent := task.process }) name arguments

/-- End as another task has ended. -/
def endAs (ended : Ended) : Act Nat :=
  match ended with
  | .code n => return n
  | .signal n => throw (.signal n)

/-- Run a program, end as it ends, or complain when it cannot be run. -/
def goOn (run : Runner) (change : Task → Task) (front name : String) (arguments : List String) :
    Act Nat := do
  match ← become run change name arguments with
  | .ok ended => endAs ended
  | .error fault =>
    complain (front ++ Named.quoted name ++ ": " ++ fault.text)
    return if fault = .missing || fault = .notDirectory then 127 else 126

/-- Run a script of the shell with another output, and give what it prints and how it ends. -/
def runScript (run : Runner) (script : String) (change : Task → Task) :
    Act (Ended × List Char) := do
  let (input, output, system) := (← get).newPipe
  set system
  let change' := fun (t : Task) => change { t with streams := t.streams.set 1 output }
  let ended ← start run change' "/bin/sh" ["-c", script]
  let text := (← get).pipeText input
  return (ended.toOption.getD (.code 127), text)

/-! ## Environments -/

/-- The assignments at the front of words, and the other words. -/
def assignmentsOf : List String → List (String × String) × List String
  | [] => ([], [])
  | w :: ws =>
    match w.toList.span (· != '=') with
    | (name, _ :: value) =>
      let (more, rest) := assignmentsOf ws
      ((String.ofList name, String.ofList value) :: more, rest)
    | _ => ([], w :: ws)

/-- An environment with a variable set; a new one comes last. -/
def assigned (environment : List (String × String)) (name value : String) :
    List (String × String) :=
  if (environment.lookup name).isSome then
    environment.map fun (n, v) => if n = name then (n, value) else (n, v)
  else environment ++ [(name, value)]

/-- The words of a text with blanks between them, where quotes keep blanks. -/
def wordsIn : (fuel : Nat) → (word : Option (List Char)) → (quote : Option Char) → List Char →
    List String
  | 0, _, _, _ => []
  | _ + 1, word, _, [] => match word with
    | some cs => [String.ofList cs.reverse]
    | none => []
  | fuel + 1, word, quote, c :: cs =>
    let grown := fun (d : Char) => some (d :: word.getD [])
    match quote with
    | some q =>
      if c = q then wordsIn fuel word none cs
      else match c, cs with
        | '\\', d :: rest =>
          if d = q || d = '\\' then wordsIn fuel (grown d) quote rest
          else wordsIn fuel (grown c) quote cs
        | _, _ => wordsIn fuel (grown c) quote cs
    | none =>
      if c = ' ' || c = '\t' || c = '\n' then
        match word with
        | some w => String.ofList w.reverse :: wordsIn fuel none none cs
        | none => wordsIn fuel none none cs
      else if c = '\'' || c = '"' then wordsIn fuel (some (word.getD [])) (some c) cs
      else match c, cs with
        | '\\', 'n' :: rest => wordsIn fuel (grown '\n') none rest
        | '\\', 't' :: rest => wordsIn fuel (grown '\t') none rest
        | '\\', d :: rest => wordsIn fuel (grown d) none rest
        | _, _ => wordsIn fuel (grown c) none cs

/-- Arguments where the text of one option is put in as words. -/
def splitArguments : List String → List String
  | [] => []
  | a :: rest =>
    match a.toList with
    | '-' :: 'S' :: text =>
      if text.isEmpty then match rest with
        | t :: rest => wordsIn (t.length + 1) none none t.toList ++ rest
        | [] => [a]
      else wordsIn (text.length + 1) none none text ++ rest
    | '-' :: 'v' :: 'S' :: text => "-v" :: wordsIn (text.length + 1) none none text ++ rest
    | '-' :: _ => a :: splitArguments rest
    | _ => a :: rest

/-- Run a program in another environment, or print the environment. -/
def env (run : Runner) : Program := do
  let known := [⟨'1', "block-signal", .attached, false⟩] ++ valued [('C', "chdir")] ++
    [⟨'2', "default-signal", .attached, false⟩, ⟨'3', "ignore-signal", .attached, false⟩,
      ⟨'4', "list-signal-handling", .nothing, false⟩] ++
    flags [('v', "debug"), ('i', "ignore-environment"), ('0', "null")] ++
    valued [('S', "split-string"), ('u', "unset")]
  let (o, words) ← withArguments (splitArguments (← arguments)) (options known 125 true)
  let (isBare, words) := match words with
    | "-" :: words => (true, words)
    | words => (o.has 'i', words)
  let own := (← read).environment
  let kept := if isBare then [] else own
  for name in o.all 'u' do
    if name.isEmpty || name.toList.elem '=' then
      complain ("cannot unset " ++ Named.quoted name ++ ": Invalid argument")
      quit 125
  let kept := kept.filter fun (name, _) => !(o.all 'u').elem name
  let (given, command) := assignmentsOf words
  let environment := given.foldl (fun e (name, value) => assigned e name value) kept
  match command with
  | [] =>
    if o.has 'C' then misused 125 "must specify command with --chdir (-C)"
    let ending := if o.has '0' then "\x00" else "\n"
    print (String.join (environment.map fun (name, value) => name ++ "=" ++ value ++ ending))
    return 0
  | name :: arguments =>
    if o.has '0' then misused 125 "cannot specify --null (-0) with command"
    let directory ← match o.last? 'C' with
      | none => pure (← read).directory
      | some path =>
        match ← node path with
        | .ok (place, .directory) => pure place
        | found => do
          let fault := match found with
            | .error fault => fault
            | .ok _ => .notDirectory
          complain ("cannot change directory to " ++ Named.quoted path ++ ": " ++ fault.text)
          quit 125
    if o.has 'v' then
      complainRaw ("executing: " ++ name ++ "\n")
      for (a, i) in (name :: arguments).zipIdx do
        complainRaw ("   arg[" ++ toString i ++ "]= '" ++ a ++ "'\n")
    goOn run (fun t => { t with environment, directory }) "" name arguments

/-! ## Arguments from the input -/

/-- What is wrong with a list of arguments. -/
inductive ItemFault where
  | openQuote (isSingle : Bool)

/-- An item of the input, and whether a line ends after it. -/
abbrev Item := List Char × Bool

/-- The items of a text with blanks between them, where quotes and backslashes keep blanks.  A line
that ends with a blank goes on. -/
def itemsOf : (fuel : Nat) → (item : Option (List Char)) → (quote : Option Char) →
    (done : List Item) → (afterBlank : Bool) → List Char → Except ItemFault (List Item)
  | 0, _, _, done, _, _ => .ok done.reverse
  | _ + 1, item, quote, done, _, [] =>
    match quote, item with
    | some q, _ => .error (.openQuote (q = '\''))
    | none, some cs => .ok ((cs.reverse, true) :: done).reverse
    | none, none => .ok done.reverse
  | fuel + 1, item, quote, done, afterBlank, c :: cs =>
    let grown := fun (d : Char) => some (d :: item.getD [])
    match quote with
    | some q =>
      if c = q then itemsOf fuel item none done false cs
      else if c = '\n' then .error (.openQuote (q = '\''))
      else itemsOf fuel (grown c) quote done false cs
    | none =>
      if c = '\n' then
        match item with
        | some w => itemsOf fuel none none ((w.reverse, true) :: done) false cs
        | none =>
          let done := match done with
            | (w, false) :: rest => if afterBlank then (w, false) :: rest else (w, true) :: rest
            | done => done
          itemsOf fuel none none done false cs
      else if c = ' ' || c = '\t' || c = '\x0b' || c = '\x0c' || c = '\r' then
        match item with
        | some w => itemsOf fuel none none ((w.reverse, false) :: done) true cs
        | none => itemsOf fuel none none done true cs
      else if c = '\'' || c = '"' then itemsOf fuel (some (item.getD [])) (some c) done false cs
      else match c, cs with
        | '\\', d :: rest => itemsOf fuel (grown d) none done false rest
        | _, _ => itemsOf fuel (grown c) none done false cs

/-- The lines of a text as items, without blanks at their fronts, where quotes and backslashes are
taken away. -/
def lineItems : (fuel : Nat) → (item : Option (List Char)) → (quote : Option Char) →
    (done : List Item) → List Char → Except ItemFault (List Item)
  | 0, _, _, done, _ => .ok done.reverse
  | _ + 1, item, quote, done, [] =>
    match quote, item with
    | some q, _ => .error (.openQuote (q = '\''))
    | none, some cs => .ok ((cs.reverse, true) :: done).reverse
    | none, none => .ok done.reverse
  | fuel + 1, item, quote, done, c :: cs =>
    let grown := fun (d : Char) => some (d :: item.getD [])
    match quote with
    | some q =>
      if c = q then lineItems fuel item none done cs
      else if c = '\n' then .error (.openQuote (q = '\''))
      else lineItems fuel (grown c) quote done cs
    | none =>
      if c = '\n' then
        match item with
        | some w => lineItems fuel none none ((w.reverse, true) :: done) cs
        | none => lineItems fuel none none done cs
      else if (c = ' ' || c = '\t') && item.isNone then lineItems fuel none none done cs
      else if c = '\'' || c = '"' then lineItems fuel (some (item.getD [])) (some c) done cs
      else match c, cs with
        | '\\', d :: rest => lineItems fuel (grown d) none done rest
        | _, _ => lineItems fuel (grown c) none done cs

/-- The pieces of a text between separators as items. -/
def pieceItems (separator : Char) (text : List Char) : List Item :=
  let pieces := piecesOf (· = separator) text
  let pieces := if pieces.getLast? = some [] then pieces.dropLast else pieces
  pieces.map fun p => (p, true)

/-- Items in groups: as many items, lines and characters as are wanted. -/
def groupsOf (mostItems mostLines : Option Nat) (mostChars : Nat) :
    (group : List (List Char)) → (lines size : Nat) → List Item → List (List (List Char))
  | group, _, _, [] => if group.isEmpty then [] else [group.reverse]
  | group, lines, size, (item, endsLine) :: rest =>
    let isFull := !group.isEmpty && (mostItems = some group.length ||
      mostLines.any (· ≤ lines) || mostChars < size + item.length + 1)
    if isFull then
      group.reverse :: groupsOf mostItems mostLines mostChars [item] (if endsLine then 1 else 0)
        (item.length + 1) rest
    else
      groupsOf mostItems mostLines mostChars (item :: group) (if endsLine then lines + 1 else lines)
        (size + item.length + 1) rest

/-- A text with every stretch that is like another one replaced. -/
def replaced (old new : List Char) : (fuel : Nat) → List Char → List Char
  | 0, cs => cs
  | _, [] => []
  | fuel + 1, c :: cs =>
    if !old.isEmpty && old.isPrefixOf (c :: cs) then
      new ++ replaced old new fuel ((c :: cs).drop old.length)
    else c :: replaced old new fuel cs

/-- The character that an option names. -/
def delimiterOf (text : String) : Act Char := do
  match text.toList with
  | [c] => return c
  | ['\\', c] =>
    return match c with
      | 'n' => '\n'
      | 't' => '\t'
      | '0' => '\x00'
      | 'r' => '\r'
      | 'a' => '\x07'
      | 'b' => '\x08'
      | 'f' => '\x0c'
      | 'v' => '\x0b'
      | c => c
  | _ =>
    complain ("Invalid input delimiter specification " ++ text ++ ": the delimiter must be " ++
      "either a single character or an escape sequence starting with \\.")
    quit 1

/-- A number that an option gives, at least some number. -/
def countOf (o : Chosen) (key : Char) (least : Nat) : Act (Option Nat) := do
  match o.last? key with
  | none => return none
  | some text =>
    match text.toInt? with
    | none =>
      complain ("invalid number \"" ++ text ++ "\" for -" ++ String.singleton key ++ " option")
      seeHelp 1
    | some n =>
      if n < least then
        complain ("value " ++ text ++ " for -" ++ String.singleton key ++
          " option should be >= " ++ toString least)
        seeHelp 1
      return some n.toNat

/-- The options of the program. -/
def itemOptions : List Known :=
  flags [('0', "null")] ++
    [⟨'a', "arg-file", .value, true⟩, ⟨'d', "delimiter", .value, true⟩,
      ⟨'E', "", .value, true⟩, ⟨'e', "eof", .attached, true⟩, ⟨'I', "", .value, true⟩,
      ⟨'i', "replace", .attached, true⟩, ⟨'L', "", .value, true⟩,
      ⟨'l', "max-lines", .attached, true⟩, ⟨'n', "max-args", .value, true⟩,
      ⟨'o', "open-tty", .nothing, true⟩, ⟨'p', "interactive", .nothing, true⟩,
      ⟨'r', "no-run-if-empty", .nothing, true⟩, ⟨'s', "max-chars", .value, true⟩,
      ⟨'t', "verbose", .nothing, true⟩, ⟨'x', "exit", .nothing, true⟩,
      ⟨'P', "max-procs", .value, true⟩, ⟨'S', "show-limits", .nothing, false⟩,
      ⟨'V', "process-slot-var", .value, false⟩]

/-- The input of the program. -/
def itemText (o : Chosen) : Act (List Char) := do
  match o.last? 'a' with
  | none => return ((← readStream 0).toOption).getD []
  | some path =>
    match ← readPath path with
    | .ok text => return text
    | .error fault =>
      complain ("Cannot open input file " ++ Named.quoted path ++ ": " ++ fault.text)
      quit 1

/-- Run programs with arguments from the input. -/
def xargs (run : Runner) : Program := do
  let (o, words) ← options itemOptions 1 true
  let mostItems ← countOf o 'n' 1
  let mostLines ← countOf o 'L' 1
  let mostLines := mostLines.or ((o.last? 'l').map fun text => (natural? text).getD 1)
  let mostChars ← countOf o 's' 1
  let _ ← countOf o 'P' 0
  let pattern := match o.lastOf? ['I', 'i'] with
    | none => none
    | some key =>
      let text := (o.last? key).getD ""
      some (if text.isEmpty then ['\x7b', '\x7d'] else text.toList)
  let deciding := o.lastOf? ['I', 'i', 'L', 'l', 'n']
  let name := fun (key : Char) => if key = 'n' then "--max-args"
    else if key = 'I' || key = 'i' then "--replace/-I/-i" else "--max-lines"
  let exclusive := (o.filter fun p => ['I', 'i', 'L', 'l', 'n'].elem p.1).map (·.1)
  for (a, b) in exclusive.zip (exclusive.drop 1) do
    if name a != name b && !(b = 'n' && o.last? 'n' = some "1" && (a = 'I' || a = 'i')) then
      complain ("warning: options " ++ name a ++ " and " ++ name b ++
        " are mutually exclusive, ignoring previous " ++ name a ++ " value")
  let isReplacing := pattern.isSome && (deciding = some 'I' || deciding = some 'i' ||
    (deciding = some 'n' && mostItems = some 1))
  let command := if words.isEmpty then ["echo"] else words
  let text ← itemText o
  let items ← if o.has '0' then pure (.ok (pieceItems '\x00' text))
    else match o.last? 'd' with
      | some d => do
        let d ← delimiterOf d
        pure (.ok (pieceItems d text))
      | none =>
        pure (if isReplacing then lineItems (text.length + 1) none none [] text
          else itemsOf (text.length + 1) none none [] false text)
  let items ← match items with
    | .ok items => pure items
    | .error (.openQuote isSingle) => do
      complain ("unmatched " ++ (if isSingle then "single" else "double") ++
        " quote; by default quotes are special to xargs unless you use the -0 option")
      quit 1
  let stop := ((o.filter fun p => p.1 = 'E' || p.1 = 'e').getLast?).map (·.2)
  let items := match stop with
    | some text => if text.isEmpty then items else items.takeWhile fun i => i.1 != text.toList
    | none => items
  let base := command.foldl (fun n w => n + w.length + 1) 0
  let room := (mostChars.getD 131072) - base
  if !isReplacing && items.any fun i => room < i.1.length + 1 then
    complain "argument line too long"
    quit 1
  let calls := if isReplacing then
      items.map fun (item, _) => command.zipIdx.map fun (w, i) =>
        let _ := i
        String.ofList (replaced (pattern.getD []) item (w.length + 1) w.toList)
    else
      let lines := if deciding = some 'L' || deciding = some 'l' then mostLines else none
      let most := if lines.isSome then none else mostItems
      let groups := groupsOf most lines room [] 0 0 items
      let groups := if groups.isEmpty && !o.has 'r' then [[]] else groups
      groups.map fun g => command ++ g.map String.ofList
  let input := (← get).hold { target := .device .null }
  set input.2
  let mut status := 0
  for call in calls do
    if o.has 't' then
      complainRaw (String.intercalate " " (call.map Named.shown) ++ "\n")
    let program := call.headD ""
    let streams := fun (t : Task) =>
      if o.has 'a' then t else { t with streams := t.streams.set 0 input.1 }
    match ← start run streams program (call.drop 1) with
    | .error fault =>
      complain (program ++ ": " ++ fault.text)
      quit (if fault = .missing || fault = .notDirectory then 127 else 126)
    | .ok (.signal n) =>
      complain (program ++ ": terminated by signal " ++ toString n)
      quit 125
    | .ok (.code 255) =>
      complain (program ++ ": exited with status 255; aborting")
      quit 124
    | .ok (.code n) => if n != 0 then status := 123
  return status

/-! ## Limits -/

/-- The signal that a text names. -/
def signalNamed? (text : String) : Option Nat :=
  match natural? text with
  | some n => if n ≤ 64 then some n else none
  | none =>
    let name := Signal.capitals text
    let name := if startsWith name "SIG" then String.ofList (name.toList.drop 3) else name
    if name = "EXIT" then some 0 else Signal.ofName? name

/-- Run a program for a limited time. -/
def timeout (run : Runner) : Program := do
  let known := [⟨'1', "foreground", .nothing, false⟩] ++ valued [('k', "kill-after")] ++
    [⟨'2', "preserve-status", .nothing, false⟩] ++ valued [('s', "signal")] ++
    flags [('v', "verbose")]
  let (o, words) ← options known 125 true
  let signal ← match o.last? 's' with
    | none => pure 15
    | some text =>
      match signalNamed? text with
      | some n => pure n
      | none => misused 125 (Named.quoted text ++ ": invalid signal")
  match words with
  | [] | [_] => seeHelp 125
  | limit :: name :: arguments =>
    match duration? limit with
    | none => misused 125 ("invalid time interval " ++ Named.quoted limit)
    | some time =>
      let now := (← get).clock
      let outer := (← read).deadline
      let own := if time = 0 then none else some (now + time)
      let deadline := match own, outer with
        | some a, some b => some (min a b)
        | a, b => a.or b
      match ← start run (fun t => { t with deadline }) name arguments with
      | .error fault =>
        complain ("failed to run command " ++ Named.quoted name ++ ": " ++ fault.text)
        return if fault = .missing || fault = .notDirectory then 127 else 126
      | .ok ended =>
        let after := (← get).clock
        if own.any (· < after) then
          modify fun s => { s with clock := own.getD s.clock }
          if signal = 9 then throw (.signal 9)
          return if o.has '2' then 128 + signal else 124
        match ended with
        | .code n => return n
        | .signal n => throw (.signal n)

/-- Run a program with other weight, which makes no difference, or print the weight. -/
def nice (run : Runner) : Program := do
  let given := (← arguments).map fun a => match a.toList with
    | '-' :: c :: cs => if c.isDigit then "-n" ++ String.ofList (c :: cs) else a
    | _ => a
  let (o, words) ← withEach given (options (valued [('n', "adjustment")]) 125 true)
  let adjustment ← match o.last? 'n' with
    | none => pure 10
    | some text =>
      match text.toInt? with
      | some n => pure n.toNat
      | none => do
        complain ("invalid adjustment " ++ Named.quoted text)
        quit 125
  match words with
  | [] =>
    if o.has 'n' then misused 125 "a command must be given with an adjustment"
    print "0\n"
    return 0
  | name :: arguments =>
    let isWeighing := name = "nice" && arguments.isEmpty
    if isWeighing then
      print (toString (min 19 adjustment) ++ "\n")
      return 0
    goOn run id "" name arguments
where
  /-- Do something as a task with other arguments. -/
  withEach {α : Type} (arguments : List String) (act : Act α) : Act α :=
    withReader (fun task => { task with arguments }) act

/-- Run a program that is not to be ended when its user goes. -/
def nohup (run : Runner) : Program := do
  let (_, words) ← options [] 125 true
  match words with
  | [] => missingOperand 125
  | name :: arguments => goOn run id "failed to run command " name arguments

/-- Run a program in a group of its own. -/
def setsid (run : Runner) : Program := do
  let (_, words) ← options (flags [('c', "ctty"), ('f', "fork"), ('w', "wait")]) 1 true
  match words with
  | [] =>
    complain "no command specified"
    seeHelp 1
  | name :: arguments =>
    match ← become run id name arguments with
    | .ok ended => endAs ended
    | .error fault =>
      complain ("failed to execute " ++ name ++ ": " ++ fault.text)
      return if fault = .missing || fault = .notDirectory then 127 else 126

/-- Run a program with other buffers, which make no difference. -/
def stdbuf (run : Runner) : Program := do
  let known := valued [('i', "input"), ('o', "output"), ('e', "error")]
  let (o, words) ← options known 125 true
  match words with
  | [] => missingOperand 125
  | name :: arguments =>
    if o.isEmpty then misused 125 "you must specify a buffering mode option"
    goOn run id "failed to run command " name arguments

/-! ## Signals -/

/-- The usage of the program that sends signals. -/
def killUsage : String := "
Usage:
 kill [options] <pid> [...]

Options:
 <pid> [...]            send signal to every <pid> listed
 -<signal>, -s, --signal <signal>
                        specify the <signal> to be sent
 -q, --queue <value>    integer value to be sent with the signal
 -l, --list=[<signal>]  list all signal names, or convert one to a name
 -L, --table            list all signal names in a nice table

 -h, --help     display this help and exit
 -V, --version  output version information and exit

For more details see kill(1).
"

/-- The names of the signals as they are listed. -/
def signalLines : String :=
  "HUP INT QUIT ILL TRAP ABRT BUS FPE KILL USR1 SEGV USR2 PIPE ALRM TERM STKFLT
CHLD CONT STOP TSTP TTIN TTOU URG XCPU XFSZ VTALRM PROF WINCH POLL PWR SYS
"

/-- Send signals. -/
def kill (_ : Runner) : Program := do
  let words ← arguments
  let usage : Act Nat := do
    complainRaw killUsage
    return 1
  let (signal, targets) ← match words with
    | [] => return ← usage
    | "-l" :: [] | "--list" :: [] | "-L" :: [] =>
      print signalLines
      return 0
    | "-l" :: text :: _ =>
      match natural? text with
      | some n =>
        let n := if 128 < n then n - 128 else n
        match Signal.ofNumber? n with
        | some s => print (s.name ++ "\n")
        | none =>
          complain ("unknown signal name " ++ text)
          return 1
      | none =>
        match signalNamed? text with
        | some n => print (toString n ++ "\n")
        | none =>
          complain ("unknown signal name " ++ text)
          return 1
      return 0
    | "-s" :: text :: rest | "--signal" :: text :: rest => pure (signalNamed? text, rest)
    | "--" :: rest => pure (some 15, rest)
    | first :: rest =>
      match first.toList with
      | '-' :: name =>
        let text := String.ofList name
        let text := if name.head? = some 's' && (signalNamed? text).isNone then
            String.ofList (name.drop 1) else text
        pure (signalNamed? text, rest)
      | _ => pure (some 15, first :: rest)
  match signal with
  | none => usage
  | some signal =>
    if targets.isEmpty then return ← usage
    let mut status := 0
    let task ← read
    for target in targets do
      match target.toInt? with
      | none =>
        complain ("failed to parse argument: '" ++ target ++ "'")
        status := 1
      | some n =>
        if n = task.parent || n = task.process then
          if signal != 0 then
            if n = task.process then throw (.signal signal)
            modify fun s => s.send n.toNat signal
        else
          complain ("(" ++ target ++ "): No such process")
          status := 1
    return status

/-- The programs that start others. -/
def starting : List (String × (Runner → Program)) :=
  [("env", env), ("xargs", xargs), ("timeout", timeout), ("nice", nice), ("nohup", nohup),
    ("setsid", setsid), ("stdbuf", stdbuf), ("kill", kill)]

end ScriptedShell.Local.Program
