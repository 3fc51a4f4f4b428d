/-
# Making and removing

Programs that make and remove directories, and remove files.
-/
import ScriptedShell.Local.Program.Permission

namespace ScriptedShell.Local.Program

open Act Files Text

/-- What stands where a path leads, which may be a link. -/
def linkNode (path : String) : Act (Except FileFault (Place × Node)) := do
  return (← tree).linkNode (← read).directory (ofOctets path)

/-- Do something to the file tree, or say why it cannot be done. -/
def changeTree (change : Tree → Place → Except FileFault Tree) : Act (Option FileFault) := do
  match change (← tree) (← read).directory with
  | .ok t =>
    setTree t
    return none
  | .error fault => return some fault

/-! ## Making directories -/

/-- The paths of the directories on the way to a path, and the path itself. -/
def pathsTo (path : String) : List String :=
  let pieces := piecesOf (· = '/') (Tree.withoutSlashes path).toList
  let (_, paths) := pieces.foldl (fun (front, paths) piece =>
    let here := if paths.isEmpty && front.isEmpty then piece else front ++ '/' :: piece
    (here, if piece.isEmpty then paths else String.ofList here :: paths)) (([], []) : List Char × List String)
  paths.reverse

/-- Make the directories on the way to a path that are missing; the result is the status. -/
def makeWay (isVerbose : Bool) (mode : Option ModeChange) (path : String) : Act Nat := do
  let paths := pathsTo path
  for (p, i) in paths.zipIdx do
    let isLast := i + 1 = paths.length
    match ← node p with
    | .ok (_, .directory) => pure ()
    | .ok _ =>
      complain ("cannot create directory " ++ Named.quoted p ++ ": " ++
        (if isLast then FileFault.exists else FileFault.notDirectory).text)
      return 1
    | .error _ =>
      let mask := (← read).mask
      let usual := without 0o777 mask
      let mode := if isLast then
          (mode.map fun c => c.apply true mask 0o777).getD usual
        else Nat.lor usual 0o300
      match ← changeTree fun t d => t.makeDirectory d (ofOctets p) mode with
      | none =>
        if isVerbose then print ((← read).name ++ ": created directory " ++ Named.quoted p ++ "\n")
      | some fault =>
        complain ("cannot create directory " ++ Named.quoted p ++ ": " ++ fault.text)
        return 1
  return 0

/-- Make directories. -/
def mkdir (_ : Runner) : Program := do
  let known := flags [('Z', "context"), ('p', "parents"), ('v', "verbose")] ++
    valued [('m', "mode")]
  let (o, paths) ← options known 1 false
  if paths.isEmpty then missingOperand 1
  let mode ← match o.last? 'm' with
    | none => pure none
    | some text =>
      match modeChange? text with
      | some change => pure (some change)
      | none => do
        complain ("invalid mode " ++ Named.quoted text)
        quit 1
  forEach paths fun path => do
    if o.has 'p' && !path.isEmpty then makeWay (o.has 'v') mode path
    else
      let mask := (← read).mask
      let mode := (mode.map fun c => c.apply true mask 0o777).getD (without 0o777 mask)
      match ← changeTree fun t d => t.makeDirectory d (ofOctets path) mode with
      | none =>
        if o.has 'v' then
          print ((← read).name ++ ": created directory " ++ Named.quoted path ++ "\n")
        return 0
      | some fault =>
        complain ("cannot create directory " ++ Named.quoted path ++ ": " ++ fault.text)
        return 1

/-! ## Removing directories -/

/-- Remove the directories on the way to a path, inner ones first. -/
def removeWay (o : Chosen) : List String → Act Nat
  | [] => return 0
  | path :: outer => do
    if o.has 'v' then
      print ((← read).name ++ ": removing directory, " ++ Named.quoted path ++ "\n")
    match ← changeTree fun t d => t.removeDirectory d (ofOctets path) with
    | none => removeWay o outer
    | some fault =>
      if fault = .notEmpty && o.has '1' then return 0
      complain ("failed to remove directory " ++ Named.quoted path ++ ": " ++ fault.text)
      return 1

/-- Remove empty directories. -/
def rmdir (_ : Runner) : Program := do
  let known := longFlags [('1', "ignore-fail-on-non-empty")] ++
    flags [('p', "parents"), ('v', "verbose")]
  let (o, paths) ← options known 1 false
  if paths.isEmpty then missingOperand 1
  forEach paths fun path => do
    if o.has 'v' then
      print ((← read).name ++ ": removing directory, " ++ Named.quoted path ++ "\n")
    match ← changeTree fun t d => t.removeDirectory d (ofOctets path) with
    | none => if o.has 'p' then removeWay o ((pathsTo path).reverse.drop 1) else return 0
    | some fault =>
      if fault = .notEmpty && o.has '1' then return 0
      complain ("failed to remove " ++ Named.quoted path ++ ": " ++ fault.text)
      return 1

/-! ## Removing everything -/

/-- Ask a question, and whether the answer on the input is yes. -/
def confirms (question : String) : Act Bool := do
  complainRaw ((← read).name ++ ": " ++ question)
  match ← stream? 0 with
  | none => return false
  | some file =>
    match (← get).readLine file with
    | .ok (line, s) =>
      set s
      return line.head? = some 'y' || line.head? = some 'Y'
    | .error _ => return false

/-- How things are removed. -/
structure Removal where
  isDeep : Bool := false
  isForced : Bool := false
  asks : Bool := false
  isVerbose : Bool := false
  takesDirectories : Bool := false

/-- What kind of file a node is, in words. -/
def kindName : Node → String
  | .file [] => "regular empty file"
  | .file _ | .program _ => "regular file"
  | .directory => "directory"
  | .link _ => "symbolic link"
  | .device _ => "character special file"

/-- Say that something has been removed. -/
def Removal.tell (r : Removal) (kind path : String) : Act Unit :=
  if r.isVerbose then print ("removed " ++ kind ++ Named.quoted path ++ "\n") else pure ()

/-- Remove what a path leads to; the number bounds how deep directories are inside each other.  The
result isVerbose whether everything is gone. -/
def Removal.run (r : Removal) : (depth : Nat) → (path : String) → Place → Node → Act Bool
  | 0, _, _, _ => return false
  | depth + 1, path, place, n => do
    match n with
    | .directory =>
      let names := (← tree).namesIn place
      if r.asks && !names.isEmpty then
        if !(← confirms ("descend into directory " ++ Named.quoted path ++ "? ")) then return false
      let mut isEmpty := true
      for name in names do
        match (← tree).at? (place ++ [name]) with
        | some inner =>
          if !(← r.run depth (path ++ "/" ++ toOctets name) (place ++ [name]) inner) then
            isEmpty := false
        | none => pure ()
      if !isEmpty then
        if !r.asks then
          complain ("cannot remove " ++ Named.quoted path ++ ": " ++ FileFault.notEmpty.text)
        return false
      if r.asks then
        if !(← confirms ("remove directory " ++ Named.quoted path ++ "? ")) then return false
      setTree ((← tree).erase place)
      r.tell "directory " path
      return true
    | n =>
      if r.asks then
        if !(← confirms ("remove " ++ kindName n ++ " " ++ Named.quoted path ++ "? ")) then
          return false
      setTree ((← tree).erase place)
      r.tell "" path
      return true

/-- Remove what an operand leads to; the result is the status. -/
def Removal.operand (r : Removal) (o : Chosen) (path : String) : Act Nat := do
  let refuse := fun (why : String) => do
    complain ("cannot remove " ++ Named.quoted path ++ ": " ++ why)
    return 1
  if r.isDeep && [".", ".."].elem (Tree.lastSegment path) then
    complain ("refusing to remove '.' or '..' directory: skipping " ++ Named.quoted path)
    return 1
  match ← linkNode (Tree.withoutSlashes path) with
  | .error .missing => if r.isForced then return 0 else refuse FileFault.missing.text
  | .error fault => refuse fault.text
  | .ok (place, n) =>
    if Tree.endsWithSlash path && n != .directory then
      let leads := match ← node path with
        | .ok _ => FileFault.isDirectory
        | .error fault => fault
      if leads != .isDirectory || !r.isDeep then return ← refuse leads.text
      return ← refuse FileFault.notDirectory.text
    if n = .directory then
      if r.isDeep then
        if place.isEmpty && !o.has '3' then
          complain ("it is dangerous to operate recursively on " ++ Named.quoted path)
          complain "use --no-preserve-root to override this failsafe"
          return 1
        return if ← r.run maxDepth path place n then 0 else if r.asks then 0 else 1
      else if r.takesDirectories then
        match ← changeTree fun t d => t.removeDirectory d (ofOctets path) with
        | none =>
          r.tell "directory " path
          return 0
        | some fault => refuse fault.text
      else refuse FileFault.isDirectory.text
    else
      let _ ← r.run 1 path place n
      return 0

/-- Remove files, and directories if that is asked for. -/
def rm (_ : Runner) : Program := do
  let known := flags [('f', "force"), ('i', "")] ++
    [⟨'1', "interactive", .attached, false⟩, ⟨'2', "one-file-system", .nothing, false⟩,
      ⟨'3', "no-preserve-root", .nothing, false⟩, ⟨'4', "preserve-root", .attached, false⟩] ++
    flags [('r', "recursive"), ('R', ""), ('d', "dir"), ('v', "verbose"), ('I', "")]
  let (o, paths) ← options known 1 false
  let asking := (o.filter fun p => ['f', 'i', '1', 'I'].elem p.1).getLast?
  let always := match asking with
    | some ('i', _) => true
    | some ('1', text) => ["", "always", "yes"].elem text
    | _ => false
  let once := match asking with
    | some ('I', _) => true
    | some ('1', text) => text = "once"
    | _ => false
  if paths.isEmpty then
    if asking.any (·.1 = 'f') then quit 0 else missingOperand 1
  let r : Removal :=
    { isDeep := o.has 'r' || o.has 'R', isForced := asking.any (·.1 = 'f'), asks := always
      isVerbose := o.has 'v', takesDirectories := o.has 'd' }
  if once && (r.isDeep || 3 < paths.length) then
    let count := toString paths.length ++ " argument" ++ (if paths.length = 1 then "" else "s")
    if !(← confirms ("remove " ++ count ++ (if r.isDeep then " recursively? " else "? "))) then
      quit 0
  forEach paths (r.operand o)

/-- The programs that make and remove. -/
def removing : List (String × (Runner → Program)) :=
  [("mkdir", mkdir), ("rmdir", rmdir), ("rm", rm), ("chmod", chmod)]

end ScriptedShell.Local.Program
