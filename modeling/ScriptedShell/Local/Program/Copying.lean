/-
# Copying and moving

Programs that copy, move and link files.  With one target, a directory takes what is given under its
own name; with several things to place there has to be a directory.
-/
import ScriptedShell.Local.Program.Print
import ScriptedShell.Local.Program.Remove

namespace ScriptedShell.Local.Program

open Act Files Text

/-! ## Targets -/

/-- A name inside a directory. -/
def inside (directory name : String) : String :=
  if directory.toList.getLast? = some '/' then directory ++ name else directory ++ "/" ++ name

/-- Where things are placed. -/
inductive Goal where
  /-- At a path of their own. -/
  | path (target : String)
  /-- In a directory, under their own names. -/
  | directory (target : String)
  deriving Repr

/-- The path of one thing at a goal. -/
def Goal.pathFor (source : String) : Goal → String
  | path target => target
  | directory target => inside target (lastName source)

/-- The options for targets. -/
def goalOptions : List Known :=
  [⟨'t', "target-directory", .value, true⟩, ⟨'T', "no-target-directory", .nothing, true⟩]

/-- The sources and the goal that options and operands give. -/
def goalOf (o : Chosen) (operands : List String) : Act (List String × Goal) := do
  let isDirectory := fun (path : String) => do
    match ← node path with
    | .ok (_, .directory) => return true
    | _ => return false
  let notThere := fun (what path : String) => do
    let reason := match ← node path with
      | .ok _ => FileFault.notDirectory.text
      | .error fault => fault.text
    fail' (what ++ Named.quoted path ++ ": " ++ reason)
  match o.last? 't', operands with
  | some target, [] => let _ := target; misused 1 "missing file operand"
  | some target, sources =>
    if ← isDirectory target then return (sources, .directory target)
    else notThere "target directory " target
  | none, [] => misused 1 "missing file operand"
  | none, [source] =>
    misused 1 ("missing destination file operand after " ++ Named.quoted source)
  | none, [source, target] =>
    if !o.has 'T' && (← isDirectory target) then return ([source], .directory target)
    else return ([source], .path target)
  | none, operands =>
    let target := operands.getLastD ""
    if o.has 'T' then extraOperand 1 (operands.getD 2 "")
    else if ← isDirectory target then return (operands.dropLast, .directory target)
    else notThere "target " target
where
  /-- End with a complaint. -/
  fail' {α : Type} (text : String) : Act α := do
    complain text
    quit 1

/-- What is done about something that is at the target. -/
inductive Clash where
  | replace
  | keep
  | ask
  /-- Replace it if it is older. -/
  | update
  deriving Repr, DecidableEq

/-- What options say about clashes. -/
def clashOf (o : Chosen) : Clash :=
  match (o.filter fun p => ['i', 'n', 'f', 'u'].elem p.1).getLast? with
  | some ('i', _) => .ask
  | some ('n', _) => .keep
  | some ('u', text) => if text = "none" then .keep else if text = "all" then .replace else .update
  | _ => .replace

/-- The name that something gets when it is kept beside its replacement. -/
def backupName (o : Chosen) (path : String) : String := path ++ (o.last? 'S').getD "~"

/-- Keep what is at a place beside its replacement. -/
def backUp (o : Chosen) (path : String) (place : Place) : Act Unit := do
  if o.has 'b' || o.has 'S' || o.has '5' then
    let last := (place.getLast?).getD ""
    let aside := place.dropLast ++ [ofOctets (backupName o (toOctets last))]
    let _ := path
    setTree ((← tree).move place aside)

/-- The options for clashes. -/
def clashOptions : List Known :=
  flags [('i', "interactive"), ('n', "no-clobber"), ('f', "force"), ('b', "")] ++
    [⟨'u', "", .nothing, true⟩, ⟨'u', "update", .attached, false⟩,
      ⟨'5', "backup", .attached, false⟩, ⟨'S', "suffix", .value, true⟩,
      ⟨'v', "verbose", .nothing, true⟩]

/-- Complain about something, with the status of a failure. -/
def refuse (text : String) : Act Nat := do
  complain text
  return 1

/-! ## Copying -/

/-- How things are copied. -/
structure Copying where
  isDeep : Bool := false
  /-- Whether links are copied as links. -/
  keepsLinks : Bool := false
  isVerbose : Bool := false
  clash : Clash := .replace
  makesLinks : Bool := false
  keepsMode : Bool := false
  attributesOnly : Bool := false
  options : Chosen := []

/-- Say what has been copied to where. -/
def Copying.tell (c : Copying) (source target : String) : Act Unit :=
  if c.isVerbose then print (Named.quoted source ++ " -> " ++ Named.quoted target ++ "\n") else pure ()

/-- Write a file at a target where nothing stands or a file does. -/
def Copying.writeFile (c : Copying) (source target : String) (place : Place) (n : Node) :
    Act Nat := do
  let t ← tree
  let content : Except FileFault (List UInt8) := match n with
    | .device .zero | .device .full => .ok []
    | n => Tree.bytesOf n
  let bytes ← match content with
    | .ok bytes => pure bytes
    | .error fault =>
      return ← refuse ("cannot open " ++ Named.quoted source ++ " for reading: " ++ fault.text)
  let mode := t.modeOf place
  let d := (← read).directory
  match t.linkNode d (ofOctets target), t.node d (ofOctets target) with
  | .ok _, .error .missing =>
    return ← refuse ("not writing through dangling symlink " ++ Named.quoted target)
  | _, _ => pure ()
  let how : System.Opening := { canWrite := true, makes := true, empties := true }
  let isNew := !(t.node d (ofOctets target)).isOk
  let system ← get
  let mask := (← read).mask
  let opened : Except FileFault (Nat × System) :=
    if Tree.endsWithSlash target && isNew then .error .notDirectory
    else system.openPath d (ofOctets target) how mask
  match opened with
  | .error fault =>
    return ← refuse ("cannot create regular file " ++ Named.quoted target ++ ": " ++ fault.text)
  | .ok (file, s) =>
    match if bytes.isEmpty then .ok s else s.write file (String.ofList (octets bytes)) with
    | .error fault =>
      return ← refuse ("error writing " ++ Named.quoted target ++ ": " ++ fault.text)
    | .ok s =>
      set s
      if isNew || c.keepsMode then
        match (← tree).locate d (ofOctets target) with
        | .ok place =>
          let mode := if c.keepsMode then mode else without mode mask
          if (← tree).modeOf place != mode then setTree ((← tree).setMode place mode)
        | .error _ => pure ()
      c.tell source target
      return 0

/-- Copy what stands at a place to a target; the number bounds how deep directories are inside each
other. -/
def Copying.copy (c : Copying) : (depth : Nat) → (source target : String) → Place → Node → Act Nat
  | 0, _, _, _, _ => return 1
  | depth + 1, source, target, place, n => do
    let d := (← read).directory
    let t ← tree
    let there := t.node d (ofOctets target)
    match n, there with
    | .directory, .ok (_, .directory) => pure ()
    | .directory, .ok _ =>
      return ← refuse ("cannot overwrite non-directory " ++ Named.quoted target ++
        " with directory " ++ Named.quoted source)
    | _, .ok (_, .directory) =>
      return ← refuse ("cannot overwrite directory " ++ Named.quoted target ++
        " with non-directory")
    | _, .ok (other, _) =>
      let isSame := other = place && !(c.keepsLinks &&
        (t.linkNode d (ofOctets target)).toOption.map (·.1) != some other)
      if isSame then
        return ← refuse (Named.quoted source ++ " and " ++ Named.quoted target ++
          " are the same file")
      match c.clash with
      | .keep => return 0
      | .ask =>
        if !(← confirms ("overwrite " ++ Named.quoted target ++ "? ")) then return 1
      | .update => if t.changedAt place ≤ t.changedAt other then return 0
      | .replace => pure ()
      backUp c.options target other
    | _, .error _ => pure ()
    match n with
    | .directory =>
      match t.locate d (ofOctets (Tree.withoutSlashes target)) with
      | .ok inner =>
        if Tree.isWithin inner place then
          return ← refuse ("cannot copy a directory, " ++ Named.quoted source ++
            ", into itself, " ++ Named.quoted target)
      | .error _ => pure ()
      if !there.isOk then
        match t.makeDirectory d (ofOctets target) (without (t.modeOf place) (← read).mask) with
        | .ok t =>
          setTree t
          c.tell source target
        | .error fault =>
          return ← refuse ("cannot create directory " ++ Named.quoted target ++ ": " ++ fault.text)
      let mut status := 0
      for name in t.namesIn place do
        match t.at? (place ++ [name]) with
        | some inner =>
          let result ← c.copy depth (inside source (toOctets name)) (inside target (toOctets name))
            (place ++ [name]) inner
          if result != 0 then status := 1
        | none => pure ()
      return status
    | .link path =>
      let now ← tree
      let made : Except FileFault Tree := match t.linkNode d (ofOctets target) with
        | .ok (there, _) => .ok (now.put there (.link path))
        | .error _ => t.makeLink d path (ofOctets target)
      match made with
      | .ok t =>
        setTree t
        c.tell source target
        return 0
      | .error fault =>
        refuse ("cannot create symbolic link " ++ Named.quoted target ++ ": " ++ fault.text)
    | n =>
      if c.makesLinks then
        match (← tree).makeLink d (ofOctets source) (ofOctets target) with
        | .ok t =>
          setTree t
          c.tell source target
          return 0
        | .error fault =>
          refuse ("cannot create symbolic link " ++ Named.quoted target ++ " to " ++
            Named.quoted source ++ ": " ++ fault.text)
      else c.writeFile source target place n

/-- Copy one operand to a goal. -/
def Copying.operand (c : Copying) (goal : Goal) (source : String) : Act Nat := do
  let target := if c.options.has '6' then match goal with
      | .directory d => inside d source
      | g => g.pathFor source
    else goal.pathFor source
  let found ← if c.keepsLinks && !Tree.endsWithSlash source then linkNode source else node source
  match found with
  | .error fault => refuse ("cannot stat " ++ Named.quoted source ++ ": " ++ fault.text)
  | .ok (_, .directory) =>
    if !c.isDeep then refuse ("-r not specified; omitting directory " ++ Named.quoted source)
    else match found with
      | .ok (place, n) => c.copy maxDepth source target place n
      | .error _ => return 1
  | .ok (place, n) =>
    if c.options.has '6' then
      let _ ← makeWay false none (directoryName target)
    match ← node target with
    | .error .notDirectory =>
      if !Tree.endsWithSlash target then
        return ← refuse ("cannot stat " ++ Named.quoted target ++ ": " ++
          FileFault.notDirectory.text)
    | _ => pure ()
    c.copy maxDepth source target place n

/-- Do something for each source, but for a source that comes again complain. -/
def forEachSource (sources : List String) (act : String → Act Nat) : Act Nat := do
  let mut status := 0
  let mut seen : List String := []
  for source in sources do
    if seen.elem source then
      complain ("warning: source file " ++ Named.quoted source ++ " specified more than once")
    else
      let n ← act source
      if n != 0 then status := n
    seen := source :: seen
  return status

/-- Copy files and directories. -/
def cp (_ : Runner) : Program := do
  let known := flags [('a', "archive"), ('d', ""), ('H', ""), ('l', "link"), ('L', "dereference"),
    ('P', "no-dereference"), ('p', ""), ('r', ""), ('R', "recursive"), ('s', "symbolic-link"),
    ('x', "one-file-system")] ++ goalOptions ++ clashOptions ++
    [⟨'6', "parents", .nothing, false⟩, ⟨'7', "preserve", .attached, false⟩,
      ⟨'8', "strip-trailing-slashes", .nothing, false⟩, ⟨'9', "reflink", .attached, false⟩,
      ⟨'0', "no-preserve", .value, false⟩, ⟨'1', "attributes-only", .nothing, false⟩,
      ⟨'2', "remove-destination", .nothing, false⟩, ⟨'3', "sparse", .value, false⟩]
  let (o, operands) ← options known 1 false
  if o.has 'n' then
    complain ("warning: behavior of -n is non-portable and may change in future; " ++
      "use --update=none instead")
  let (sources, goal) ← goalOf o operands
  let isDeep := o.has 'r' || o.has 'R' || o.has 'a'
  let links := o.lastOf? ['L', 'P', 'd', 'a', 'H']
  let c : Copying :=
    { isDeep, keepsLinks := (links.map fun k => k != 'L' && k != 'H').getD isDeep
      isVerbose := o.has 'v', clash := clashOf o, makesLinks := o.has 's'
      keepsMode := o.has 'p' || o.has 'a' || o.has '7', options := o }
  forEachSource sources (c.operand goal)

/-! ## Moving -/

/-- Move one operand to a goal. -/
def moveOperand (o : Chosen) (goal : Goal) (source : String) : Act Nat := do
  let target := goal.pathFor source
  let d := (← read).directory
  let cannot := fun (why : FileFault) =>
    refuse ("cannot move " ++ Named.quoted source ++ " to " ++ Named.quoted target ++ ": " ++
      why.text)
  match ← linkNode (Tree.withoutSlashes source) with
  | .error fault => refuse ("cannot stat " ++ Named.quoted source ++ ": " ++ fault.text)
  | .ok (place, n) =>
    if Tree.endsWithSlash source && n != .directory then
      return ← refuse ("cannot stat " ++ Named.quoted source ++ ": " ++
        FileFault.notDirectory.text)
    if [".", ".."].elem (Tree.lastSegment source) then return ← cannot .inUse
    let t ← tree
    let plain := ofOctets (Tree.withoutSlashes target)
    let finish := fun (goal : Place) => do
      if t.at? goal.dropLast != some .directory then
        return ← cannot (if (t.at? goal.dropLast).isSome then .notDirectory else .missing)
      if n = .directory && Tree.isWithin goal place then
        return ← refuse ("cannot move " ++ Named.quoted source ++
          " to a subdirectory of itself, " ++ Named.quoted target)
      setTree ((← tree).move place goal)
      if o.has 'v' then
        print ("renamed " ++ Named.quoted source ++ " -> " ++ Named.quoted target ++ "\n")
      return 0
    match t.linkNode d plain with
    | .error .missing =>
      if target.isEmpty then return ← cannot .missing
      if Tree.endsWithSlash target && n != .directory then return ← cannot .notDirectory
      match t.locateLink d plain with
      | .ok goal => finish goal
      | .error fault => cannot fault
    | .error fault => cannot fault
    | .ok (goal, there) =>
      if goal = place then
        return ← refuse (Named.quoted source ++ " and " ++ Named.quoted target ++
          " are the same file")
      match n, there with
      | .directory, .directory =>
        if !Tree.isWithin goal place && !(t.namesIn goal).isEmpty then return ← cannot .notEmpty
      | .directory, _ =>
        return ← refuse ("cannot overwrite non-directory " ++ Named.quoted target ++
          " with directory " ++ Named.quoted source)
      | _, .directory =>
        return ← refuse ("cannot overwrite directory " ++ Named.quoted target ++
          " with non-directory")
      | _, _ => pure ()
      match clashOf o with
      | .keep => return ← refuse ("not replacing " ++ Named.quoted target)
      | .ask => if !(← confirms ("overwrite " ++ Named.quoted target ++ "? ")) then return 1
      | .update => if t.changedAt place ≤ t.changedAt goal then return 0
      | .replace => pure ()
      backUp o target goal
      finish goal

/-- Move files and directories. -/
def mv (_ : Runner) : Program := do
  let known := clashOptions ++ goalOptions ++
    [⟨'8', "strip-trailing-slashes", .nothing, false⟩, ⟨'9', "no-copy", .nothing, false⟩]
  let (o, operands) ← options known 1 false
  let (sources, goal) ← goalOf o operands
  forEachSource sources (moveOperand o goal)

/-! ## Links -/

/-- The way from one place to another one, up and down through directories. -/
def wayBetween (start goal : Place) : String :=
  let shared := ((start.zip goal).takeWhile fun (a, b) => a = b).length
  let steps := List.replicate (start.length - shared) ".." ++ goal.drop shared
  if steps.isEmpty then "." else String.intercalate "/" steps

/-- Make a link for one operand. -/
def linkOperand (o : Chosen) (goal : Goal) (source : String) : Act Nat := do
  let path := goal.pathFor source
  let d := (← read).directory
  let kind := if o.has 's' then "symbolic link " else "hard link "
  let t ← tree
  let plain := ofOctets (Tree.withoutSlashes path)
  let content ← if o.has 's' then
      if o.has 'r' then
        match t.resolve false d (ofOctets source), t.resolve false d plain with
        | .ok goal, .ok start => pure (Node.link (wayBetween start.dropLast goal))
        | _, _ => pure (Node.link (ofOctets source))
      else pure (Node.link (ofOctets source))
    else match ← linkNode source with
      | .error fault => do
        complain ("failed to access " ++ Named.quoted source ++ ": " ++ fault.text)
        return 1
      | .ok (_, .directory) => do
        complain (Named.shown source ++ ": hard link not allowed for directory")
        return 1
      | .ok (_, n) => pure n
  match t.linkNode d plain with
  | .ok (place, .directory) =>
    let _ := place
    refuse ("failed to create " ++ kind ++ Named.quoted path ++ ": " ++ FileFault.exists.text)
  | .ok (place, _) =>
    if o.has 'f' || o.has 'b' then
      backUp o path place
      setTree ((← tree).put place content)
      if o.has 'v' then print (Named.quoted path ++ " -> " ++ Named.quoted source ++ "\n")
      return 0
    refuse ("failed to create " ++ kind ++ Named.quoted path ++ ": " ++ FileFault.exists.text)
  | .error _ =>
    match t.vacant d plain with
    | .ok place =>
      setTree (t.put place content)
      if o.has 'v' then print (Named.quoted path ++ " -> " ++ Named.quoted source ++ "\n")
      return 0
    | .error fault =>
      refuse ("failed to create " ++ kind ++ Named.quoted path ++ ": " ++ fault.text)

/-- Make links. -/
def ln (_ : Runner) : Program := do
  let known := flags [('b', ""), ('d', "directory"), ('F', ""), ('f', "force"),
    ('i', "interactive"), ('L', "logical"), ('n', "no-dereference"), ('P', "physical"),
    ('r', "relative"), ('s', "symbolic"), ('v', "verbose")] ++ goalOptions ++
    [⟨'5', "backup", .attached, false⟩, ⟨'S', "suffix", .value, true⟩]
  let (o, operands) ← options known 1 false
  match operands with
  | [] => misused 1 "missing file operand"
  | [source] =>
    if !(o.has 't' || o.has 'T') then return ← linkOperand o (.directory ".") source
  | [source, target] =>
    let isLink := match ← linkNode target with
      | .ok (_, .link _) => true
      | _ => false
    if o.has 'n' && isLink then return ← linkOperand o (.path target) source
  | _ => pure ()
  let (sources, goal) ← goalOf o operands
  forEach sources (linkOperand o goal)

/-! ## Times -/

/-- Make files, and note that they have been changed now. -/
def touch (_ : Runner) : Program := do
  let known := flags [('a', ""), ('c', "no-create"), ('f', ""), ('h', "no-dereference"),
    ('m', "")] ++ valued [('d', "date"), ('r', "reference"), ('t', ""), ('1', "time")]
  let (o, paths) ← options known 1 false
  match o.last? 't' with
  | some text =>
    let (front, back) := text.toList.span (· != '.')
    let isTime := front.all Char.isDigit && [8, 10, 12].elem front.length &&
      (back.isEmpty || (back.length = 3 && (back.drop 1).all Char.isDigit))
    if !isTime then
      complain ("invalid date format " ++ Named.quoted text)
      quit 1
  | none => pure ()
  if paths.isEmpty then misused 1 "missing file operand"
  let isPast := o.has 'd' || o.has 't'
  let reference ← match o.last? 'r' with
    | some path =>
      match ← node path with
      | .ok (place, _) => pure (some ((← tree).changedAt place))
      | .error fault => do
        complain ("failed to get attributes of " ++ Named.quoted path ++ ": " ++ fault.text)
        quit 1
    | none => pure (if isPast then some 0 else none)
  let note := fun (place : Place) => do
    let t ← tree
    match reference with
    | none => setTree (t.touch place)
    | some n => setTree { t with times := (place, n) :: t.times.filter (·.1 != place) }
  forEach paths fun path => do
    if path = "-" then return 0
    let d := (← read).directory
    match ← node path with
    | .ok (place, n) =>
      match n with
      | .device _ => pure ()
      | _ => note place
      return 0
    | .error fault =>
      if o.has 'c' then return 0
      if Tree.endsWithSlash path then
        return ← refuse ("setting times of " ++ Named.quoted path ++ ": " ++ fault.text)
      let how : System.Opening := { canWrite := true, makes := true }
      match (← get).openPath d (ofOctets path) how (← read).mask with
      | .ok (_, s) =>
        set s
        match (← tree).locate d (ofOctets path) with
        | .ok place => note place
        | .error _ => pure ()
        return 0
      | .error fault =>
        refuse ("cannot touch " ++ Named.quoted path ++ ": " ++ fault.text)

/-- The programs that copy, move and link. -/
def copying : List (String × (Runner → Program)) :=
  [("cp", cp), ("mv", mv), ("ln", ln), ("touch", touch)]

end ScriptedShell.Local.Program
