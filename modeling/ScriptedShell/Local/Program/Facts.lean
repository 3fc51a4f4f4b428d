/-
# Facts

Programs that print facts: about files and paths, about the user and about the machine.
-/
import ScriptedShell.Local.Program.Copying
import ScriptedShell.Local.Program.Listing

namespace ScriptedShell.Local.Program

open Act Files Text

/-! ## Files -/

/-- What kind of file a node is, in words. -/
def kindText : Node → String
  | .file [] => "regular empty file"
  | n => kindName n

/-- The fact about a file that a letter asks for. -/
def factOf (t : Tree) (path : String) (place : Place) (n : Node) : Char → Option String
  | 'n' => some path
  | 'N' => some (match n with
    | .link target => Named.quoted path ++ " -> " ++ Named.quoted (toOctets target)
    | _ => Named.quoted path)
  | 's' => some (toString (sizeOf t n))
  | 'F' => some (kindText n)
  | 'a' => some (octalText 1 (t.modeOf place))
  | 'A' => some (kindLetter n ++ modeLetters (t.modeOf place))
  | 'f' =>
    let kind := match n with
      | .directory => 0o40000
      | .link _ => 0o120000
      | .device _ => 0o20000
      | _ => 0o100000
    some (String.ofList (Nat.toDigits 16 (kind + t.modeOf place)))
  | 'u' | 'g' => some "0"
  | 'U' | 'G' => some "root"
  | 'h' => some (toString (linkCount t place n))
  | 'b' => some (toString (2 * blocksOf t n))
  | 'B' => some "512"
  | 'o' => some "4096"
  | 'i' | 'd' | 'D' => some "1"
  | 't' | 'T' => some "0"
  | 'm' => some "/"
  | 'X' | 'Y' | 'Z' | 'W' => some "0"
  | '%' => some "%"
  | _ => none

/-- A text of a width that flags and digits ask for. -/
def widened (flags width : List Char) (text : String) : String :=
  let n := ((String.ofList width).toNat?).getD 0
  if flags.elem '-' then padRight n text
  else if flags.elem '0' then String.ofList (List.replicate (n - text.length) '0') ++ text
  else padLeft n text

/-- A format with facts put in for its directives. -/
def filled (fact : Char → Option String) : (fuel : Nat) → List Char → String
  | 0, _ => ""
  | _, [] => ""
  | fuel + 1, '%' :: rest =>
    let (flags, after) := rest.span fun c => "-0+ #'".toList.elem c
    let (width, after) := after.span fun c => c.isDigit || c = '.'
    match after with
    | c :: more =>
      (match fact c with
        | some text => widened flags (width.takeWhile Char.isDigit) text
        | none => "?") ++ filled fact fuel more
    | [] => "%"
  | fuel + 1, c :: rest => String.singleton c ++ filled fact fuel rest

/-- Letters after backslashes replaced by what they stand for. -/
def formText : List Char → List Char
  | '\\' :: c :: rest =>
    (match c with
      | 'n' => ['\n']
      | 't' => ['\t']
      | 'r' => ['\r']
      | 'a' => ['\x07']
      | 'b' => ['\x08']
      | 'f' => ['\x0c']
      | 'v' => ['\x0b']
      | 'e' => ['\x1b']
      | '0' => ['\x00']
      | '\\' => ['\\']
      | '"' => ['"']
      | c => ['\\', c]) ++ formText rest
  | c :: rest => c :: formText rest
  | [] => []

/-- Print facts about files. -/
def stat (_ : Runner) : Program := do
  let known := flags [('L', "dereference"), ('f', "file-system"), ('t', "terse")] ++
    valued [('c', "format")] ++ [⟨'1', "printf", .value, false⟩, ⟨'2', "cached", .value, false⟩]
  let (o, paths) ← options known 1 false
  if paths.isEmpty then missingOperand 1
  forEach paths fun path => do
    match ← if o.has 'L' then node path else linkNode path with
    | .error fault => refuse ("cannot statx " ++ Named.quoted path ++ ": " ++ fault.text)
    | .ok (place, n) =>
      let fact := factOf (← tree) path place n
      let fill := fun (cs : List Char) => filled fact (cs.length + 1) cs
      match (o.filter fun p => p.1 = 'c' || p.1 = '1').getLast? with
      | some ('c', format) => print (fill format.toList ++ "\n")
      | some (_, format) => print (fill (formText format.toList))
      | none =>
        if o.has 't' then
          print (fill "%n %s %b %f %u %g %D %i %h %t %T %X %Y %Z %W %o\n".toList)
        else
          print (fill ("  File: %N\n  Size: %-10s\tBlocks: %-10b IO Block: %-6o %F\n" ++
            "Device: 0,1\tInode: %-11i Links: %h\n" ++
            "Access: (%04a/%10A)  Uid: (%5u/%8U)   Gid: (%5g/%8G)\n").toList)
      return 0

/-! ## Paths -/

/-- What may be missing on the way of a path. -/
inductive Missing where
  | nothing
  | last
  | anything
  deriving Repr, DecidableEq

/-- The segments of a path with those taken out that lead nowhere else. -/
def plainSegments (place : Place) (segments : List String) : Place :=
  segments.foldl (fun (p : Place) s =>
    if Path.isStill s then p else if s = ".." then p.dropLast else p ++ [s]) place

/-- The place that a path leads to, where something may be missing. -/
def canonical (t : Tree) (current : Place) (path : String) (missing : Missing) :
    Except FileFault Place := do
  if path.isEmpty then throw .missing
  let plain := Tree.withoutSlashes path
  match t.resolve true current plain with
  | .ok place =>
    if (t.at? place).isSome then
      if Tree.endsWithSlash path && t.at? place != some .directory then throw .notDirectory
      return place
    else if missing = .nothing then throw .missing
    else return place
  | .error fault =>
    if missing = .anything then
      let segments := Path.segments plain
      let start := Tree.startOf current plain
      let (place, _) := segments.foldl (fun ((p : Place), isLost) s =>
        if isLost then (plainSegments p [s], true)
        else match t.resolve true p (if s.isEmpty then "." else s) with
          | .ok q => if (t.at? q).isSome then (q, false) else (plainSegments p [s], true)
          | .error _ => (plainSegments p [s], true)) (start, false)
      return place
    else throw fault

/-- Print what links stand for, or the places that paths lead to. -/
def readlink (_ : Runner) : Program := do
  let known := flags [('f', "canonicalize"), ('e', "canonicalize-existing"),
    ('m', "canonicalize-missing"), ('n', "no-newline"), ('q', "quiet"), ('s', "silent"),
    ('v', "verbose"), ('z', "zero")]
  let (o, paths) ← options known 1 false
  if paths.isEmpty then missingOperand 1
  let isSingle := paths.length = 1
  if o.has 'n' && !isSingle then
    complain "ignoring --no-newline with multiple arguments"
  let ending := if o.has 'n' && isSingle then "" else if o.has 'z' then "\x00" else "\n"
  let t ← tree
  let d := (← read).directory
  forEach paths fun path => do
    let found := match o.lastOf? ['f', 'e', 'm'] with
      | none => match t.linkNode d (ofOctets path) with
        | .ok (_, .link target) => Except.ok target
        | .ok _ => .error FileFault.invalid
        | .error fault => .error fault
      | some key =>
        let missing : Missing :=
          if key = 'e' then .nothing else if key = 'm' then .anything else .last
        (canonical t d (ofOctets path) missing).map Tree.pathOf
    match found with
    | .ok text =>
      print (toOctets text ++ ending)
      return 0
    | .error fault =>
      if o.has 'v' then complainOf path fault.text
      return 1

/-- Print the places that paths lead to. -/
def realpath (_ : Runner) : Program := do
  let known := flags [('e', "canonicalize-existing"), ('m', "canonicalize-missing"),
    ('L', "logical"), ('P', "physical"), ('q', "quiet"), ('s', "strip"), ('z', "zero")] ++
    [⟨'s', "no-symlinks", .nothing, false⟩, ⟨'1', "relative-to", .value, false⟩,
      ⟨'2', "relative-base", .value, false⟩]
  let (o, paths) ← options known 1 false
  if paths.isEmpty then missingOperand 1
  let t ← tree
  let d := (← read).directory
  let missing : Missing := match o.lastOf? ['e', 'm'] with
    | some 'e' => .nothing
    | some _ => .anything
    | none => .last
  let find := fun (path : String) =>
    if o.has 's' then
      if path.isEmpty then Except.error FileFault.missing
      else .ok (plainSegments (Tree.startOf d (ofOctets path)) (Path.segments (ofOctets path)))
    else canonical t d (ofOctets path) missing
  let baseOf := fun (key : Char) => do
    match o.last? key with
    | none => return none
    | some path =>
      match find path with
      | .ok place => return some place
      | .error fault =>
        complainOf path fault.text
        quit 1
  let goal ← baseOf '1'
  let base ← baseOf '2'
  forEach paths fun path => do
    match find path with
    | .error fault =>
      if !o.has 'q' then complainOf path fault.text
      return 1
    | .ok place =>
      let isNear := base.all fun b => Tree.isWithin place b
      let text := match goal.or base with
        | some from' => if isNear then wayBetween from' place else Tree.pathOf place
        | none => Tree.pathOf place
      print (toOctets text ++ (if o.has 'z' then "\x00" else "\n"))
      return 0

/-! ## Sizes -/

/-- Set the sizes of files. -/
def truncate (_ : Runner) : Program := do
  let known := flags [('c', "no-create"), ('o', "io-blocks")] ++
    valued [('r', "reference"), ('s', "size")]
  let (o, paths) ← options known 1 false
  if !(o.has 's' || o.has 'r') then
    misused 1 "you must specify either '--size' or '--reference'"
  let text := (o.last? 's').getD "0"
  let (mark, digits) := match text.toList with
    | c :: cs => if "+-<>/%".toList.elem c then (some c, String.ofList cs) else (none, text)
    | [] => (none, "")
  let base ← match o.last? 'r' with
    | none => pure none
    | some path =>
      match ← node path with
      | .ok (_, n) => pure (some (sizeOf (← tree) n))
      | .error fault => do
        complain ("cannot stat " ++ Named.quoted path ++ ": " ++ fault.text)
        quit 1
  let n ← match amount? digits with
    | some n => pure n
    | none => do
      complain ("Invalid number: " ++ Named.quoted text)
      quit 1
  if paths.isEmpty then misused 1 "missing file operand"
  forEach paths fun path => do
    let d := (← read).directory
    let isThere := ((← tree).node d (ofOctets path)).isOk
    if !isThere && o.has 'c' then return 0
    let how : System.Opening := { canWrite := true, makes := true }
    match (← get).openPath d (ofOctets path) how (← read).mask with
    | .error fault =>
      refuse ("cannot open " ++ Named.quoted path ++ " for writing: " ++ fault.text)
    | .ok (_, s) =>
      set s
      match (← tree).node d (ofOctets path) with
      | .ok (place, .file bytes) =>
        let old := base.getD bytes.length
        let size := if o.has 'r' && !o.has 's' then old else match mark with
          | some '+' => old + n
          | some '-' => old - n
          | some '<' => min old n
          | some '>' => max old n
          | some '/' => old / (max n 1) * n
          | some '%' => (old + n - 1) / (max n 1) * n
          | _ => n
        let content := bytes.take size ++ List.replicate (size - bytes.length) 0
        setTree ((← tree).put place (.file content))
        return 0
      | _ => return 0

/-- The letters and digits that take the places of the signs in a template. -/
def filling : List Char := "a7Qk2ZpX9b".toList

/-- Make a file or a directory with a new name. -/
def mktemp (_ : Runner) : Program := do
  let known := flags [('d', "directory"), ('u', "dry-run"), ('q', "quiet"), ('t', "")] ++
    [⟨'p', "tmpdir", .attached, false⟩, ⟨'p', "", .value, true⟩, ⟨'1', "suffix", .value, false⟩]
  let (o, words) ← options known 1 false
  if 1 < words.length then misused 1 "too many templates"
  let given := words.head?
  let suffix := (o.last? '1').getD ""
  let template := given.getD "tmp.XXXXXXXXXX"
  let inTemporary := o.has 'p' || o.has 't' || given.isNone
  let (after, front) := template.toList.reverse.span (· != 'X')
  let signs := front.takeWhile (· = 'X')
  if signs.length < 3 then
    complain ("too few X's in template " ++ Named.quoted template)
    quit 1
  let task ← read
  let directory := match o.last? 'p' with
    | some text => if text.isEmpty then (task.environment.lookup "TMPDIR").getD "/tmp" else text
    | none => (task.environment.lookup "TMPDIR").getD "/tmp"
  let t ← tree
  let seed := t.changeCount + task.process
  let letters := (List.range signs.length).map fun i =>
    filling.getD ((seed / (i + 1) + 3 * i) % filling.length) 'x'
  let name := String.ofList ((front.drop signs.length).reverse ++ letters ++ after.reverse) ++ suffix
  let path := if inTemporary then inside directory name else name
  let shown := if inTemporary then inside directory template else template
  if o.has 'u' then
    print (path ++ "\n")
    return 0
  let made : Except FileFault Tree := if o.has 'd' then
      t.makeDirectory task.directory (ofOctets path) 0o700
    else do
      let place ← t.vacant task.directory (ofOctets path)
      return (t.put place (.file [])).setMode place 0o600
  match made with
  | .ok t =>
    setTree t
    print (path ++ "\n")
    return 0
  | .error fault =>
    if !o.has 'q' then
      complain ("failed to create " ++ (if o.has 'd' then "directory" else "file") ++
        " via template " ++ Named.quoted (shown ++ suffix) ++ ": " ++ fault.text)
    return 1

/-! ## Users and the machine -/

/-- Print facts about the user. -/
def identity (_ : Runner) : Program := do
  let known := flags [('a', ""), ('Z', "context"), ('g', "group"), ('G', "groups"), ('n', "name"),
    ('r', "real"), ('u', "user"), ('z', "zero")]
  let (o, users) ← options known 1 false
  let kinds := ['u', 'g', 'G'].filter o.has
  if 1 < kinds.length then
    complain "cannot print \"only\" of more than one choice"
    quit 1
  if kinds.isEmpty && (o.has 'n' || o.has 'r') then
    complain "cannot print only names or real IDs in default format"
    quit 1
  let show' := fun (_ : String) => do
    let text := if kinds.isEmpty then "uid=0(root) gid=0(root) groups=0(root)"
      else if o.has 'n' then "root" else "0"
    print (text ++ (if o.has 'z' then "\x00" else "\n"))
    return 0
  if users.isEmpty then show' ""
  else forEach users fun user => do
    if user = "root" || user = "0" then show' user
    else refuse (Named.quoted user ++ ": no such user")

/-- Print the name of the user. -/
def whoami (_ : Runner) : Program := do
  let (_, words) ← options [] 1 false
  match words with
  | w :: _ => extraOperand 1 w
  | [] =>
    print "root\n"
    return 0

/-- Print the groups of the user. -/
def groups (_ : Runner) : Program := do
  let (_, users) ← options [] 1 false
  if users.isEmpty then
    print "root\n"
    return 0
  forEach users fun user => do
    if user = "root" then
      print "root : root\n"
      return 0
    else refuse (Named.quoted user ++ ": no such user")

/-- The name of the machine. -/
def machineName : String := "localhost"

/-- Print facts about the system. -/
def uname (_ : Runner) : Program := do
  let known := flags [('a', "all"), ('s', "kernel-name"), ('n', "nodename"),
    ('r', "kernel-release"), ('v', "kernel-version"), ('m', "machine"), ('p', "processor"),
    ('i', "hardware-platform"), ('o', "operating-system")]
  let (o, words) ← options known 1 false
  match words with
  | w :: _ => extraOperand 1 w
  | [] =>
    let facts := [('s', "Linux"), ('n', machineName), ('r', "6.8.0"), ('v', "#1 SMP"),
      ('m', "x86_64"), ('p', "x86_64"), ('i', "x86_64"), ('o', "GNU/Linux")]
    let wanted := if o.isEmpty then ['s'] else o.map (·.1)
    let chosen := facts.filter fun (key, _) => wanted.elem 'a' || wanted.elem key
    print (String.intercalate " " (chosen.map (·.2)) ++ "\n")
    return 0

/-- Print the name of the machine. -/
def hostname (_ : Runner) : Program := do
  print (machineName ++ "\n")
  return 0

/-- Print a text, however the program is called. -/
def always (text : String) (_ : Runner) : Program := do
  print text
  return 0

/-- Print the terminal of the input: there is none. -/
def tty (_ : Runner) : Program := do
  let (o, words) ← options (flags [('s', "silent"), ('q', "quiet")]) 2 false
  match words with
  | w :: _ => extraOperand 2 w
  | [] =>
    if !(o.has 's' || o.has 'q') then print "not a tty\n"
    return 1

/-- The programs that print facts. -/
def facts : List (String × (Runner → Program)) :=
  [("stat", stat), ("readlink", readlink), ("realpath", realpath), ("truncate", truncate),
    ("mktemp", mktemp), ("id", identity), ("whoami", whoami), ("groups", groups), ("uname", uname),
    ("hostname", hostname), ("arch", always "x86_64\n"), ("nproc", always "1\n"),
    ("users", always ""), ("who", always ""), ("tty", tty)]

end ScriptedShell.Local.Program
