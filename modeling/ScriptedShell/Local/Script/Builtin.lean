/-
# Commands of the shell

The commands that a shell carries out itself and that run no other command: they print, ask and
change the state of the shell.
-/
import ScriptedShell.Local.Launch
import ScriptedShell.Local.Script.Condition
import ScriptedShell.Local.Script.Fields
import ScriptedShell.Local.Script.Printing
import ScriptedShell.Local.Script.Source
import ScriptedShell.Local.Script.State

namespace ScriptedShell.Local.Script

open Files Text

/-- A command of the shell: its status, given its arguments. -/
abbrev Builtin := List String → Sh Nat

namespace Builtin

/-! ## Arguments -/

/-- An option that has been read, with its argument if it takes one. -/
abbrev Option' := Char × Option String

/-- The letters of one argument as options, and the arguments after it. -/
def letters (allowed : List Char) : Nat → List Char → List String →
    Sh (List Option' × List String)
  | 0, _, rest | _, [], rest => return ([], rest)
  | fuel + 1, c :: cs, rest =>
    match (allowed.span (· != c)).2 with
    | [] => Sh.fail ("Illegal option -" ++ String.singleton c)
    | _ :: ':' :: _ =>
      match cs, rest with
      | [], [] => Sh.fail ("No arg for -" ++ String.singleton c ++ " option")
      | [], a :: rest => return ([(c, some a)], rest)
      | cs, rest => return ([(c, some (String.ofList cs))], rest)
    | _ => do
      let (more, rest) ← letters allowed fuel cs rest
      return ((c, none) :: more, rest)

/-- The options at the front of arguments, and the other arguments; a colon after a letter that is
allowed means that it takes an argument. -/
def optionsOf (allowed : String) : Nat → List String → Sh (List Option' × List String)
  | 0, arguments => return ([], arguments)
  | _ + 1, [] => return ([], [])
  | fuel + 1, a :: rest =>
    match a.toList with
    | ['-', '-'] => return ([], rest)
    | '-' :: c :: cs => do
      let (found, rest) ← letters allowed.toList (cs.length + 1) (c :: cs) rest
      let (more, rest) ← optionsOf allowed fuel rest
      return (found ++ more, rest)
    | _ => return ([], a :: rest)

/-- The options at the front of arguments, and the other arguments. -/
def splitOptions (allowed : String) (arguments : List String) :
    Sh (List Option' × List String) := optionsOf allowed (arguments.length + 1) arguments

/-- The number that a text writes, which must not be negative. -/
def numberOf (text : String) : Sh Nat :=
  match Arithmetic.decimal? text with
  | some n => if 0 ≤ n && n < Nat.pow 2 31 then return n.toNat else Sh.fail ("Illegal number: " ++ text)
  | none => Sh.fail ("Illegal number: " ++ text)

/-- A text in quotes that a shell reads back, where quotes stand in quotes of the other kind. -/
def quotedText (text : String) : String :=
  String.ofList (inSingle (text.length + 1) text.toList)
where
  /-- Stretches without quotes between single quotes, and quotes between double ones. -/
  inSingle : Nat → List Char → List Char
    | 0, _ => []
    | fuel + 1, cs =>
      let (plain, rest) := cs.span (· != '\'')
      let (quotes, rest) := rest.span (· = '\'')
      ('\'' :: plain ++ ['\'']) ++ (if quotes.isEmpty then []
        else '"' :: quotes ++ '"' :: (if rest.isEmpty then [] else inSingle fuel rest))

/-- Print, and fail if that cannot be done. -/
def printing (text : String) : Sh Nat := return if ← Sh.print text then 0 else 2

/-! ## Printing and asking -/

/-- Print arguments. -/
def echo : Builtin := fun arguments => printing (String.ofList (echoText arguments))

/-- Print arguments in a format. -/
def printf : Builtin := fun arguments => do
  let (_, arguments) ← splitOptions "" arguments
  match arguments with
  | [] => Sh.fail "usage: printf format [arg ...]"
  | format :: arguments =>
    let p := printfText .standard format arguments
    for (argument, objection) in p.objections do
      Sh.warn (objection.text .standard argument)
    let fails := p.fault.isSome
    match p.fault with
    | some fault => Sh.warn (fault.text .standard)
    | none => pure ()
    let status ← printing (String.ofList p.text.reverse)
    return if fails then 2 else if p.isFailed then 1 else status

/-- The world as a shell sees it. -/
def world (shell : Shell) : World :=
  let t := shell.system.tree
  { node := fun path =>
      if (Act.streamAt? path).any fun n => (shell.streams.lookup n).isSome then some ([], .device .null)
      else (t.node shell.directory (ofOctets path)).toOption
    linkNode := fun path => (t.linkNode shell.directory (ofOctets path)).toOption
    mode := t.modeOf
    changed := t.changedAt }

/-- Find out whether a condition holds. -/
def condition (words : List String) : Sh Nat := do
  match Condition.holds (world (← get)) (words.length + 1) words with
  | .ok result => return if result then 0 else 1
  | .error fault => Sh.fail fault.message

/-- Find out whether a condition in brackets holds. -/
def bracket : Builtin := fun arguments =>
  if arguments.getLast? = some "]" then condition arguments.dropLast else Sh.fail "missing ]"

/-! ## Directories -/

/-- A path from a directory by the names in it: a name of two dots takes one away. -/
def pathAlong (path target : String) : String :=
  let start := if Path.isAbsolute target then [] else (Path.segments path).filter (!·.isEmpty)
  let names := (Path.segments target).foldl (fun (names : List String) segment =>
    if Path.isStill segment then names
    else if segment = ".." then names.dropLast
    else names ++ [segment]) start
  "/" ++ String.intercalate "/" names

/-- Go to a directory, if it is there. -/
def goTo (target : String) (isPhysical : Bool) : Sh Bool := do
  let shell ← get
  let path := if isPhysical then target else pathAlong shell.path target
  match shell.system.tree.node shell.directory (ofOctets path) with
  | .ok (place, .directory) =>
    let old := shell.path
    let path := if isPhysical then toOctets (Tree.pathOf place) else path
    set { shell with directory := place, path }
    Sh.assign "OLDPWD" old true
    Sh.assign "PWD" path true
    return true
  | _ => return false

/-- Whether a path says by itself where it begins. -/
def isAnchored (target : String) : Bool :=
  match Path.segments target with
  | first :: _ => first = "." || first = ".." || Path.isAbsolute target
  | [] => false

/-- Change the directory. -/
def changeDirectory : Builtin := fun arguments => do
  let (options, rest) ← splitOptions "LP" arguments
  let isPhysical := (options.getLast?.map (·.1)) = some 'P'
  let given := rest.head?
  let target ← match given with
    | none => pure ((← Sh.valueOf? "HOME").getD "")
    | some "-" => pure ((← Sh.valueOf? "OLDPWD").getD "")
    | some t => pure t
  let target := if target.isEmpty then "." else target
  let listed ← Sh.valueOf? "CDPATH"
  let search := if isAnchored target then "" else listed.getD ""
  let starts := (piecesOf (· = ':') search.toList).map String.ofList
  for start in starts do
    let path := if start.isEmpty then target else start ++ "/" ++ target
    if ← goTo path isPhysical then
      if !start.isEmpty || given = some "-" then
        return ← printing ((← get).path ++ "\n")
      return 0
  if ← goTo target isPhysical then
    if given = some "-" then return ← printing ((← get).path ++ "\n")
    return 0
  Sh.fail ("can't cd to " ++ target)

/-- Print the directory. -/
def printDirectory : Builtin := fun arguments => do
  let (options, _) ← splitOptions "LP" arguments
  let shell ← get
  let isPhysical := (options.getLast?.map (·.1)) = some 'P'
  printing ((if isPhysical then toOctets (Tree.pathOf shell.directory) else shell.path) ++ "\n")

/-! ## Variables -/

/-- A text with an assignment in it: the name, and the value if there is one. -/
def splitAssignment (text : String) : String × Option String :=
  match text.toList.span (· != '=') with
  | (name, _ :: value) => (String.ofList name, some (String.ofList value))
  | (name, []) => (String.ofList name, none)

/-- Print variables as a shell reads them back. -/
def showVariables (front : String) (shown : Variable → Bool) : Sh Nat := do
  let all := ((← get).vars.filter fun p => shown p.2).mergeSort fun a b => a.1 ≤ b.1
  let lines := all.map fun (name, v) => front ++ name ++ (match v.value with
    | some value => "=" ++ quotedText value
    | none => "") ++ "\n"
  printing (String.join lines)

/-- Change what holds of variables, and give them values. -/
def declare (change : Variable → Variable) (exports : Bool) (front : String)
    (shown : Variable → Bool) : Builtin := fun arguments => do
  let (options, names) ← splitOptions "p" arguments
  if names.isEmpty || !options.isEmpty then return ← showVariables front shown
  for text in names do
    let (name, value) := splitAssignment text
    if !Sh.isVariableName name then Sh.fail (name ++ ": bad variable name")
    match value with
    | some value => Sh.assign name value exports
    | none => pure ()
    Sh.putVariable name (change ((← Sh.bindingOf? name).getD {}))
  return 0

/-- Let programs get variables. -/
def export' : Builtin :=
  declare (fun v => { v with isExported := true }) true "export " (·.isExported)

/-- Let variables keep their values. -/
def readonly : Builtin :=
  declare (fun v => { v with isReadonly := true }) false "readonly " (·.isReadonly)

/-- Let variables be the function's own. -/
def local' : Builtin := fun names => do
  if !(← get).isFunction then Sh.fail "not in a function"
  for text in names do
    let (name, value) := splitAssignment text
    if !Sh.isVariableName name then Sh.fail (name ++ ": bad variable name")
    Sh.makeLocal name
    match value with
    | some value => Sh.assign name value false
    | none => pure ()
  return 0

/-- Take variables or functions away. -/
def unset : Builtin := fun arguments => do
  let (options, names) ← splitOptions "vf" arguments
  let isFunctions := (options.getLast?.map (·.1)) = some 'f'
  for name in names do
    if isFunctions then
      modify fun shell => { shell with functions := shell.functions.filter (·.1 != name) }
    else
      if !Sh.isVariableName name then Sh.fail (name ++ ": bad variable name")
      Sh.unset name
  return 0

/-- Take arguments of the script away. -/
def shift : Builtin := fun arguments => do
  let n ← match arguments with
    | [] => pure 1
    | a :: _ => numberOf a
  let shell ← get
  if shell.parameters.length < n then Sh.fail "can't shift that many"
  set { shell with parameters := shell.parameters.drop n }
  return 0

/-! ## Options of the shell -/

/-- The names of options with their letters; some have no letter that can be set. -/
def optionNames : List (String × Option Char) :=
  [("errexit", some 'e'), ("noglob", some 'f'), ("ignoreeof", some 'I'), ("interactive", some 'i'),
    ("monitor", some 'm'), ("noexec", some 'n'), ("stdin", some 's'), ("xtrace", some 'x'),
    ("verbose", some 'v'), ("vi", some 'V'), ("emacs", some 'E'), ("noclobber", some 'C'),
    ("allexport", some 'a'), ("notify", some 'b'), ("nounset", some 'u'), ("privileged", some 'p'),
    ("nolog", none), ("debug", none)]

/-- The letters of options, those of later ones first. -/
def optionLetters : List Char := (optionNames.filterMap (·.2)).reverse

/-- Set or take back the option with a letter. -/
def setOption (letter : Char) (isOn : Bool) : Sh Unit := do
  if !optionLetters.elem letter then Sh.fail ("Illegal option -" ++ String.singleton letter)
  modify fun shell => { shell with
    options := optionLetters.filter fun c => if c = letter then isOn else shell.options.elem c }

/-- Set or take back the option with a name. -/
def setNamedOption (name : String) (isOn : Bool) : Sh Unit := do
  match optionNames.lookup name with
  | some (some letter) => setOption letter isOn
  | some none => return
  | none => Sh.fail ("Illegal option -o " ++ name)

/-- Print the options and whether they are set. -/
def showOptions (isOn : Bool) : Sh Nat := do
  let shell ← get
  let isSet := fun (letter : Option Char) => letter.any shell.options.elem
  if isOn then
    let lines := optionNames.map fun (name, letter) =>
      name ++ String.ofList (List.replicate (16 - name.length) ' ') ++
        (if isSet letter then "on" else "off") ++ "\n"
    printing ("Current option settings\n" ++ String.join lines)
  else
    let lines := optionNames.map fun (name, letter) =>
      "set " ++ (if isSet letter then "-" else "+") ++ "o " ++ name ++ "\n"
    printing (String.join lines)

/-- Set options and arguments; what is left of the arguments replaces those of the script. -/
def setFrom : Nat → List String → Sh Nat
  | 0, _ | _, [] => return 0
  | fuel + 1, a :: rest =>
    match a.toList with
    | ['-'] => do
      setOption 'x' false
      setOption 'v' false
      if !rest.isEmpty then replace rest
      return 0
    | ['-', '-'] => do replace rest; return 0
    | sign :: letters =>
      if sign = '-' || sign = '+' then do
        let isOn := sign = '-'
        let mut rest := rest
        let mut status := 0
        for c in letters do
          if c = 'o' then
            match rest with
            | [] => status ← showOptions isOn
            | name :: others =>
              setNamedOption name isOn
              rest := others
          else setOption c isOn
        let after ← setFrom fuel rest
        return if after = 0 then status else after
      else do replace (a :: rest); return 0
    | [] => do replace (a :: rest); return 0
where
  /-- Give the script other arguments. -/
  replace (texts : List String) : Sh Unit :=
    modify fun shell => { shell with parameters := texts }

/-- Set options and the arguments of the script, or print all variables. -/
def set' : Builtin := fun arguments =>
  if arguments.isEmpty then showVariables "" fun v => v.value.isSome
  else setFrom (arguments.length + 1) arguments

/-! ## Options of scripts -/

/-- Complain about an option of a script: one that is not known, or that lacks its argument. -/
def complainOfOption (letter : Char) (isKnown : Bool) : Sh Unit := do
  let shell ← get
  if shell.isExtended then
    if (← Sh.valueOf? "OPTERR") != some "0" then
      Sh.complainRaw (shell.name ++
        (if isKnown then ": option requires an argument -- " else ": illegal option -- ") ++
        String.singleton letter ++ "\n")
  else if isKnown then Sh.complainRaw ("No arg for -" ++ String.singleton letter ++ " option\n")
  else Sh.complainRaw ("Illegal option -" ++ String.singleton letter ++ "\n")

/-- Take the next option out of arguments. -/
def getopts : Builtin := fun arguments => do
  let (_, arguments) ← splitOptions "" arguments
  match arguments with
  | allowed :: name :: given =>
    let shell ← get
    let texts := if given.isEmpty then shell.parameters else given
    let index := shell.optionIndex
    let isSilent := allowed.toList.head? = some ':'
    let word := if 1 < index && 0 < shell.optionLetter then texts[index - 2]?.getD "" else ""
    let left := if 0 < shell.optionLetter then word.toList.drop shell.optionLetter else []
    let finish := fun (index letter : Nat) (value : String) (status : Nat) => do
      Sh.assign "OPTIND" (toString index) false
      Sh.assign name value false
      modify fun shell => { shell with optionIndex := index, optionLetter := letter }
      return status
    let start : Option (List Char × Nat × Nat) :=
      if !left.isEmpty then some (left, index, shell.optionLetter)
      else match texts[index - 1]? with
        | none => none
        | some text => match text.toList with
          | '-' :: c :: cs => some (c :: cs, index + 1, 1)
          | _ => none
    match start with
    | none => finish index 0 "?" 1
    | some (['-'], index, 1) => finish index 0 "?" 1
    | some ([], index, _) => finish index 0 "?" 1
    | some (c :: cs, index, letter) =>
      let known := (allowed.toList.span (· != c)).2
      match if c = ':' then [] else known with
      | [] =>
        if isSilent then Sh.assign "OPTARG" (String.singleton c) false
        else
          complainOfOption c false
          Sh.unset "OPTARG"
        finish index (if cs.isEmpty then 0 else letter + 1) "?" 0
      | _ :: ':' :: _ =>
        match cs, texts[index - 1]? with
        | [], none =>
          if isSilent then
            Sh.assign "OPTARG" (String.singleton c) false
            finish index 0 ":" 0
          else
            complainOfOption c true
            Sh.unset "OPTARG"
            finish index 0 "?" 0
        | [], some text =>
          Sh.assign "OPTARG" text false
          finish (index + 1) 0 (String.singleton c) 0
        | cs, _ =>
          Sh.assign "OPTARG" (String.ofList cs) false
          finish index 0 (String.singleton c) 0
      | _ =>
        Sh.assign "OPTARG" "" false
        finish index (if cs.isEmpty then 0 else letter + 1) (String.singleton c) 0
  | _ => Sh.fail "Usage: getopts optstring var [arg...]"

/-! ## Reading -/

/-- Read one line from the input: its bits, and whether it has ended.  Unless it is raw, a backslash
quotes the character after it and joins lines. -/
def lineBits (isRaw : Bool) : Nat → List Bit → List Char → List Bit × Bool × Nat × List Char
  | 0, done, cs => (done.reverse, false, 0, cs)
  | _ + 1, done, [] => (done.reverse, false, 0, [])
  | _ + 1, done, '\n' :: cs => (done.reverse, true, 1, cs)
  | fuel + 1, done, c :: cs =>
    let after := fun (n : Nat) (r : List Bit × Bool × Nat × List Char) =>
      (r.1, r.2.1, r.2.2.1 + n, r.2.2.2)
    if c = '\x00' then after 1 (lineBits isRaw fuel done cs)
    else if c = '\\' && !isRaw then
      match cs with
      | [] => (done.reverse, false, 1, [])
      | '\n' :: cs => after 2 (lineBits isRaw fuel (.border false :: done) cs)
      | d :: cs =>
        after 2 (lineBits isRaw fuel (.border false :: .char d true false :: done) cs)
    else after 1 (lineBits isRaw fuel (.char c false true :: done) cs)

/-- Read a line into variables. -/
def read : Builtin := fun arguments => do
  let (options, names) ← splitOptions "p:r" arguments
  if names.isEmpty then Sh.fail "arg count"
  let shell ← get
  let isRaw := options.any (·.1 = 'r')
  let text ← match shell.streams.lookup 0 with
    | none => pure none
    | some file =>
      match shell.system.available file with
      | .error _ => pure none
      | .ok text =>
        let (bits, isEnded, count, left) := lineBits isRaw (text.length + 1) [.border false] text
        modify fun shell => { shell with system := shell.system.consumed file count left }
        pure (some (bits, isEnded))
  let (bits, isEnded) := text.getD ([], false)
  let separators := match (shell.vars.lookup "IFS").bind (·.value) with
    | some text => text.toList
    | none => [' ', '\t', '\n']
  let fields := (fieldsOf separators (some names.length) bits).map bitText
  for (name, i) in names.zipIdx do
    Sh.assign name (fields[i]?.getD "") false
  return if isEnded then 0 else 1

/-! ## Aliases and names -/

/-- Print aliases or make new ones. -/
def alias' : Builtin := fun arguments => do
  let shown := fun (name value : String) => name ++ "=" ++ quotedText value ++ "\n"
  if arguments.isEmpty then
    let all := (← get).aliases.mergeSort fun a b => a.1 ≤ b.1
    return ← printing (String.join (all.map fun p => shown p.1 p.2))
  let mut status := 0
  for text in arguments do
    match text.toList with
    | [] => pure ()
    | c :: cs =>
      match cs.span (· != '=') with
      | (front, _ :: value) =>
        let name := String.ofList (c :: front)
        modify fun shell => { shell with
          aliases := (name, String.ofList value) :: shell.aliases.filter (·.1 != name) }
      | (_, []) =>
        match (← get).aliases.lookup text with
        | some value => let _ ← Sh.print (shown text value)
        | none =>
          Sh.complainRaw ("alias: " ++ text ++ " not found\n")
          status := 1
  return status

/-- Take aliases away. -/
def unalias : Builtin := fun arguments => do
  let (options, names) ← splitOptions "a" arguments
  if !options.isEmpty then
    modify fun shell => { shell with aliases := [] }
    return 0
  let mut status := 0
  for name in names do
    if ((← get).aliases.lookup name).isSome then
      modify fun shell => { shell with aliases := shell.aliases.filter (·.1 != name) }
    else
      Sh.complainRaw ("unalias: " ++ name ++ " not found\n")
      status := 1
  return status

/-- The commands of the shell whose failures end a script, and which keep assignments. -/
def specialNames : List String :=
  [".", ":", "break", "continue", "eval", "exec", "exit", "export", "local", "readonly", "return",
    "set", "shift", "times", "trap", "unset"]

/-- The other commands of the shell. -/
def regularNames : List String :=
  ["[", "alias", "bg", "cd", "chdir", "command", "echo", "false", "fg", "getopts", "hash", "jobs",
    "kill", "printf", "pwd", "read", "test", "true", "type", "ulimit", "umask", "unalias", "wait"]

/-- The search path. -/
def searchPath : Sh String := return (← Sh.valueOf? "PATH").getD ""

/-- Remember the path of a program. -/
def remember (name path : String) : Sh Unit :=
  modify fun shell =>
    if (shell.hashed.lookup name).isSome then shell
    else { shell with hashed := shell.hashed ++ [(name, path)] }

/-- Say what a name stands for. -/
def describe (name : String) (search : String) (isLong : Bool) : Sh Nat := do
  let shell ← get
  let say := fun (text : String) => printing (text ++ "\n")
  let tell := fun (long short : String) => say (if isLong then name ++ long else short)
  if reservedWords.elem name then return ← tell " is a shell keyword" name
  match shell.aliases.lookup name with
  | some value =>
    return ← tell (" is an alias for " ++ value) ("alias " ++ name ++ "=" ++ quotedText value)
  | none => pure ()
  if (shell.functions.lookup name).isSome then return ← tell " is a shell function" name
  if specialNames.elem name then return ← tell " is a special shell builtin" name
  if regularNames.elem name then return ← tell " is a shell builtin" name
  let missing := do
    if isLong then let _ ← say (name ++ ": not found")
    return 127
  if name.toList.elem '/' then
    if (canLaunch shell.system.tree shell.directory name).isOk ||
        shell.system.tree.reaches shell.directory (ofOctets name) then
      return ← tell (" is " ++ name) name
    else return ← missing
  match shell.hashed.lookup name with
  | some path => tell (" is a tracked alias for " ++ path) path
  | none =>
    match findProgram shell.system.tree shell.directory search name with
    | .ok path =>
      remember name path
      tell (" is " ++ path) path
    | .error _ => missing

/-- Say what names stand for. -/
def type : Builtin := fun names => do
  let mut status := 0
  for name in names do
    let one ← describe name (← searchPath) true
    status := Nat.lor status one
  return status

/-- Look for programs and remember their paths. -/
def hash : Builtin := fun arguments => do
  let (options, names) ← splitOptions "rv" arguments
  if options.any (·.1 = 'r') then modify fun shell => { shell with hashed := [] }
  let shell ← get
  if names.isEmpty && options.isEmpty then
    return ← printing (String.join (shell.hashed.map fun p => p.2 ++ "\n"))
  let mut status := 0
  for name in names do
    if !(specialNames.elem name || regularNames.elem name ||
        (shell.functions.lookup name).isSome) then
      match findProgram shell.system.tree shell.directory (← searchPath) name with
      | .ok path => remember name path
      | .error _ =>
        Sh.warn (name ++ ": not found")
        status := 1
  return status

/-! ## Signals -/

/-- The name of a signal as the shell knows it; the signal 0 is the end of the script. -/
def signalName (n : Nat) : String :=
  if n = 0 then "EXIT"
  else if n = 16 then "16"
  else if n ≤ 31 then ((Signal.ofNumber? n).map (·.name)).getD (toString n)
  else if n ≤ 33 then toString n
  else if n = 34 then "RTMIN"
  else if n ≤ 49 then "RTMIN+" ++ toString (n - 34)
  else if n < 64 then "RTMAX-" ++ toString (64 - n)
  else "RTMAX"

/-- The largest number of a signal. -/
def maxSignal : Nat := 64

/-- The number of the signal that a text names. -/
def signalOf? (text : String) (least : Nat) : Option Nat :=
  if !text.isEmpty && text.toList.all Char.isDigit then
    (text.toNat?).filter fun n => least ≤ n && n ≤ maxSignal
  else
    let wanted := Signal.capitals text
    (List.range (maxSignal + 1)).find? fun n => least ≤ n && signalName n = wanted

/-- Print what is done for signals, or say what is to be done. -/
def trap : Builtin := fun arguments => do
  let (_, arguments) ← splitOptions "" arguments
  match arguments with
  | [] =>
    let all := (← get).traps.mergeSort fun a b => a.1 ≤ b.1
    let lines := all.map fun (n, action) =>
      "trap -- " ++ quotedText action ++ " " ++ signalName n ++ "\n"
    printing (String.join lines)
  | first :: others =>
    let isReset := others.isEmpty || (!first.isEmpty && first.toList.all Char.isDigit)
    let action := if isReset || first = "-" then none else some first
    for name in if isReset then first :: others else others do
      match signalOf? name 0 with
      | none =>
        Sh.complainRaw ("trap: " ++ name ++ ": bad trap\n")
        return 1
      | some n =>
        modify fun shell =>
          let traps := shell.traps.filter (·.1 != n)
          { shell with traps := match action with
              | some text => (n, text) :: traps
              | none => traps }
    return 0

/-- How `kill` is used. -/
def killUsage : String :=
  "Usage: kill [-s sigspec | -signum | -sigspec] [pid | job]... or\nkill -l [exitstatus]"

/-- The job that a text with a percent sign names. -/
def jobNamed (text : String) : Sh Job := do
  let shell ← get
  let name := String.ofList (text.toList.drop 1)
  let found := if name.isEmpty || name = "%" || name = "+" then shell.jobs.head?
    else if name = "-" then (shell.jobs.drop 1).head?
    else shell.jobs.find? fun job => toString job.number = name
  match found with
  | some job => return job
  | none =>
    if name.isEmpty || name = "%" || name = "+" then Sh.fail "No current job"
    else if name = "-" then Sh.fail "No previous job"
    else Sh.fail ("No such job: " ++ text)

/-- Change one job. -/
def setJob (job : Job) : Sh Unit :=
  modify fun shell => { shell with
    jobs := shell.jobs.map fun j => if j.process = job.process then job else j }

/-- Send a signal to a process, if it is there. -/
def sendTo (process signal : Nat) : Sh Bool := do
  let shell ← get
  match shell.jobs.find? (·.process = process) with
  | some job =>
    if job.ended.isNone && Signal.ends signal && signal != 0 then
      setJob { job with ended := some (.signal signal) }
    return job.ended.isNone
  | none =>
    if process = shell.process || process = shell.mainProcess || process = shell.parent then
      if signal != 0 then
        set { shell with system := shell.system.send process signal }
      return true
    else return false

/-- Send signals. -/
def kill : Builtin := fun arguments => do
  let usage : Sh Nat := Sh.fail killUsage
  match arguments with
  | [] => usage
  | first :: others =>
    let direct := match first.toList with
      | '-' :: name => if name.isEmpty then none else signalOf? (String.ofList name) 1
      | _ => none
    let (signal, isList, targets) ← match direct with
      | some n => pure (some n, false, others)
      | none => do
        let (options, rest) ← splitOptions "ls:" arguments
        let isList := options.any (·.1 = 'l')
        let mut signal := none
        for (c, value) in options do
          if c = 's' then
            match signalOf? (value.getD "") 1 with
            | some n => signal := some n
            | none => Sh.fail ("invalid signal number or name: " ++ value.getD "")
        pure (signal, isList, rest)
    if isList then
      if signal.isSome then return ← usage
      match targets with
      | [] =>
        let names := (List.range (maxSignal + 1)).map fun n =>
          (if n = 0 then "0" else signalName n) ++ "\n"
        printing (String.join names)
      | text :: _ =>
        let n ← numberOf text
        let n := if 128 < n then n - 128 else n
        if 0 < n && n ≤ maxSignal then printing (signalName n ++ "\n")
        else Sh.fail ("invalid signal number or exit status: " ++ text)
    else if targets.isEmpty then usage
    else
      let mut status := 0
      for text in targets do
        let process ← if text.toList.head? = some '%' then pure (← jobNamed text).process
          else numberOf (if text.toList.head? = some '-' then String.ofList (text.toList.drop 1)
            else text)
        if !(← sendTo process (signal.getD 15)) then
          Sh.warn "No such process\n"
          status := 1
      return status

/-! ## Permissions and limits -/

/-- Digits in base eight, as many as are asked for. -/
def octalText (count n : Nat) : String :=
  let ds := Nat.toDigits 8 n
  String.ofList (List.replicate (count - ds.length) '0' ++ ds)

/-- The letters of permissions that a mask leaves. -/
def maskLetters (mask shift : Nat) : String :=
  let bits := 7 - (mask / Nat.pow 2 shift) % 8
  String.join [if Nat.land bits 4 != 0 then "r" else "", if Nat.land bits 2 != 0 then "w" else "",
    if Nat.land bits 1 != 0 then "x" else ""]

/-- The permissions that one clause of letters makes of others. -/
def applyClause (mode : Nat) (clause : List Char) : Option Nat := do
  let (who, rest) := clause.span fun c => "ugoa".toList.elem c
  let who := if who.isEmpty || who.elem 'a' then ['u', 'g', 'o'] else who
  let shifts := who.map fun c => if c = 'u' then 6 else if c = 'g' then 3 else 0
  match rest with
  | [] => none
  | sign :: letters =>
    if !("+-=".toList.elem sign) then none
    else
      let bits := fun (shift : Nat) => letters.foldl (fun n c =>
        if c = 'r' then Nat.lor n 4
        else if c = 'w' then Nat.lor n 2
        else if c = 'x' || c = 'X' then Nat.lor n 1
        else if c = 'u' then Nat.lor n (mode / 64 % 8)
        else if c = 'g' then Nat.lor n (mode / 8 % 8)
        else if c = 'o' then Nat.lor n (mode % 8)
        else n + 0 * shift) 0
      if !letters.all fun c => "rwxXugost".toList.elem c then none
      else some (shifts.foldl (fun n shift =>
        let old := n / Nat.pow 2 shift % 8
        let new := if sign = '+' then Nat.lor old (bits shift)
          else if sign = '-' then old - Nat.land old (bits shift)
          else bits shift
        n - old * Nat.pow 2 shift + new * Nat.pow 2 shift) mode)

/-- Print the mask of permissions, or set it. -/
def umask : Builtin := fun arguments => do
  let (options, rest) ← splitOptions "S" arguments
  let mask := (← get).mask
  match rest with
  | [] =>
    if options.isEmpty then printing (octalText 4 mask ++ "\n")
    else
      printing ("u=" ++ maskLetters mask 6 ++ ",g=" ++ maskLetters mask 3 ++ ",o=" ++
        maskLetters mask 0 ++ "\n")
  | text :: _ =>
    if (text.toList.head?.map Char.isDigit) = some true then
      if text.toList.all isOctal then
        let n := text.toList.foldl (fun n c => 8 * n + (c.toNat - '0'.toNat)) 0
        if 0o777 < n then Sh.fail ("Illegal number: " ++ text)
        modify fun shell => { shell with mask := n }
        return 0
      else Sh.fail ("Illegal number: " ++ text)
    else
      let clauses := piecesOf (· = ',') text.toList
      match clauses.foldl (fun (m : Option Nat) c => m.bind fun m => applyClause m c)
          (some (0o777 - mask)) with
      | some mode =>
        modify fun shell => { shell with mask := 0o777 - mode }
        return 0
      | none => Sh.fail ("Illegal mode: " ++ text)

/-- Print limits: there are none. -/
def ulimit : Builtin := fun arguments => do
  let (_, rest) ← splitOptions "HSatfdscmlpnvwr" arguments
  if rest.isEmpty then printing "unlimited\n" else return 0

/-- Print how long the script has taken. -/
def times : Builtin := fun _ => printing "0m0.000000s 0m0.000000s\n0m0.000000s 0m0.000000s\n"

/-- Print the jobs. -/
def jobs : Builtin := fun _ => return 0

/-- Go on with a job in the background, which needs a terminal. -/
def background : Builtin := fun arguments => do
  let _ ← jobNamed (arguments.head?.getD "%%")
  Sh.fail "job not created under job control"

/-- The commands that run no other ones, by name. -/
def table : List (String × Builtin) :=
  [(":", fun _ => return 0), ("true", fun _ => return 0), ("false", fun _ => return 1),
    ("echo", echo), ("printf", printf), ("test", condition), ("[", bracket),
    ("cd", changeDirectory), ("chdir", changeDirectory), ("pwd", printDirectory),
    ("export", export'), ("readonly", readonly), ("local", local'), ("unset", unset),
    ("shift", shift), ("set", set'), ("getopts", getopts), ("read", read), ("alias", alias'),
    ("unalias", unalias), ("type", type), ("hash", hash), ("trap", trap), ("kill", kill),
    ("umask", umask), ("ulimit", ulimit), ("times", times), ("jobs", jobs), ("bg", background),
    ("fg", background)]

end Builtin

end ScriptedShell.Local.Script
