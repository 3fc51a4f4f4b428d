/-
# Permissions

The permissions of files as numbers, as letters, and as changes that are asked for: digits in base
eight, or clauses that say whose permissions change, how, and which ones.
-/
import ScriptedShell.Files.Changes
import ScriptedShell.Local.Program.Show

namespace ScriptedShell.Local.Program

open Act Files Text

/-! ## Changes -/

/-- What a clause does to permissions. -/
inductive ModeAction where
  | add
  | remove
  | assign
  deriving Repr, DecidableEq

/-- One step of a change. -/
structure ModeStep where
  /-- The bits of those whose permissions change; none when nobody is named. -/
  affected : Option Nat
  action : ModeAction
  bits : Nat := 0
  /-- Whether the right to run is given only where somebody has it, or to directories. -/
  isConditional : Bool := false
  /-- Whose permissions are taken over. -/
  source : Option Char := none
  deriving Repr

/-- A change of permissions. -/
inductive ModeChange where
  | fixed (mode : Nat) (isFull : Bool)
  | steps (steps : List ModeStep)
  deriving Repr

/-- The bits of a letter for those whose permissions change. -/
def whoBits? : Char → Option Nat
  | 'u' => some 0o4700
  | 'g' => some 0o2070
  | 'o' => some 0o1007
  | 'a' => some 0o7777
  | _ => none

/-- The bits of a letter for a permission. -/
def permissionBits? : Char → Option Nat
  | 'r' => some 0o444
  | 'w' => some 0o222
  | 'x' => some 0o111
  | 's' => some 0o6000
  | 't' => some 0o1000
  | _ => none

/-- The action that a sign stands for. -/
def modeAction? : Char → Option ModeAction
  | '+' => some .add
  | '-' => some .remove
  | '=' => some .assign
  | _ => none

/-- The steps of a clause after those that it is about. -/
def modeSteps (affected : Option Nat) : (fuel : Nat) → List Char → Option (List ModeStep)
  | 0, _ => none
  | _, [] => some []
  | fuel + 1, c :: cs => do
    let action ← modeAction? c
    match cs with
    | s :: rest =>
      if s = 'u' || s = 'g' || s = 'o' then
        let more ← modeSteps affected fuel rest
        return { affected, action, source := some s } :: more
      else pure ()
    | [] => pure ()
    let (letters, rest) := cs.span fun c => (permissionBits? c).isSome || c = 'X'
    let bits := letters.foldl (fun n c => Nat.lor n ((permissionBits? c).getD 0)) 0
    let more ← modeSteps affected fuel rest
    return { affected, action, bits, isConditional := letters.elem 'X' } :: more

/-- The steps of one clause. -/
def modeClause? (clause : List Char) : Option (List ModeStep) := do
  let (who, rest) := clause.span fun c => (whoBits? c).isSome
  if rest.isEmpty then none
  let bits := who.foldl (fun n c => Nat.lor n ((whoBits? c).getD 0)) 0
  modeSteps (if who.isEmpty then none else some bits) (rest.length + 1) rest

/-- The change that a text asks for. -/
def modeChange? (text : String) : Option ModeChange :=
  let cs := text.toList
  let isOctal := fun (c : Char) => '0' ≤ c && c ≤ '7'
  if !cs.isEmpty && cs.all isOctal then
    let n := cs.foldl (fun n c => 8 * n + (c.toNat - '0'.toNat)) 0
    if n ≤ 0o7777 then some (.fixed n (4 < cs.length)) else none
  else if cs.isEmpty then none
  else ((piecesOf (· = ',') cs).mapM modeClause?).map fun steps => .steps steps.flatten

/-- Bits without some others. -/
def without (n bits : Nat) : Nat := Nat.land n (0o7777 ^^^ Nat.land bits 0o7777)

/-- The bits of a step for permissions as they are. -/
def ModeStep.value (s : ModeStep) (isDirectory : Bool) (mode : Nat) : Nat :=
  match s.source with
  | some who =>
    let shift := if who = 'u' then 6 else if who = 'g' then 3 else 0
    Nat.land (mode >>> shift) 7 * 0o111
  | none =>
    if s.isConditional && (isDirectory || Nat.land mode 0o111 != 0) then Nat.lor s.bits 0o111
    else s.bits

/-- Permissions after a step. -/
def ModeStep.apply (s : ModeStep) (isDirectory : Bool) (mask mode : Nat) : Nat :=
  let limit := s.affected.getD (without 0o7777 mask)
  let value := Nat.land (s.value isDirectory mode) limit
  match s.action with
  | .add => Nat.lor mode value
  | .remove => without mode value
  | .assign =>
    let kept := match s.affected with
      | some bits => without mode bits
      | none => 0
    let special := if isDirectory then Nat.land mode 0o6000 else 0
    Nat.lor (Nat.lor kept special) value

/-- Permissions after a change. -/
def ModeChange.apply (c : ModeChange) (isDirectory : Bool) (mask mode : Nat) : Nat :=
  match c with
  | .fixed n isFull => if isDirectory && !isFull then Nat.lor n (Nat.land mode 0o6000) else n
  | .steps all => all.foldl (fun mode s => s.apply isDirectory mask mode) mode

/-! ## Letters -/

/-- Three permissions as letters, where the last one has another letter if a special bit is set. -/
def threeLetters (bits : Nat) (isSpecial : Bool) (letter : Char) : String :=
  let mark := fun (bit : Nat) (c : Char) => if Nat.land bits bit != 0 then c else '-'
  let last := if !isSpecial then mark 1 'x'
    else if Nat.land bits 1 != 0 then letter else letter.toUpper
  String.ofList [mark 4 'r', mark 2 'w', last]

/-- Permissions as letters. -/
def modeLetters (mode : Nat) : String :=
  let has := fun (bit : Nat) => Nat.land mode bit != 0
  threeLetters (mode >>> 6) (has 0o4000) 's' ++ threeLetters (mode >>> 3) (has 0o2000) 's' ++
    threeLetters mode (has 0o1000) 't'

/-- The letter for the kind of a node. -/
def kindLetter : Node → String
  | .directory => "d"
  | .link _ => "l"
  | .device _ => "c"
  | _ => "-"

/-- A number in base eight with at least some digits. -/
def octalText (width n : Nat) : String :=
  let text := String.ofList (Nat.toDigits 8 n)
  String.ofList (List.replicate (width - text.length) '0') ++ text

/-! ## The program -/

/-- Whether an argument that begins with a dash asks for a change. -/
def isModeArgument (a : String) : Bool :=
  match a.toList with
  | '-' :: c :: _ => "rwxXstugoa,+=01234567".toList.elem c
  | _ => false

/-- Change the permissions of one place, and say so if that is asked for. -/
def changeMode (o : Chosen) (change : ModeChange) (path : String) (place : Place) (n : Node) :
    Act Unit := do
  let t ← tree
  let old := t.modeOf place
  let new := change.apply (n == .directory) (← read).mask old
  if new != old then setTree (t.setMode place new)
  let show' := fun (mode : Nat) => octalText 4 mode ++ " (" ++ modeLetters mode ++ ")"
  if new != old && (o.has 'v' || o.has 'c') then
    print ("mode of " ++ Named.quoted path ++ " changed from " ++ show' old ++ " to " ++
      show' new ++ "\n")
  else if o.has 'v' then
    print ("mode of " ++ Named.quoted path ++ " retained as " ++ show' new ++ "\n")

/-- What stands below a directory, with the paths that lead there; outer ones come first. -/
def everythingBelow (t : Tree) : (fuel : Nat) → (path : String) → Place →
    List (String × Place × Node)
  | 0, _, _ => []
  | fuel + 1, path, place =>
    (t.namesIn place).flatMap fun name =>
      let inner := place ++ [name]
      let path := path ++ "/" ++ toOctets name
      match t.at? inner with
      | some n =>
        (path, inner, n) :: if n = .directory then everythingBelow t fuel path inner else []
      | none => []

/-- The most directories that are inside each other. -/
def maxDepth : Nat := 1000

/-- Change the permissions of files. -/
def chmod (_ : Runner) : Program := do
  let known := flags [('c', "changes"), ('f', "quiet"), ('R', "recursive"), ('v', "verbose")] ++
    [⟨'f', "silent", .nothing, false⟩, ⟨'1', "reference", .value, false⟩,
      ⟨'2', "no-preserve-root", .nothing, false⟩, ⟨'3', "preserve-root", .nothing, false⟩]
  let given ← arguments
  let modes := given.filter isModeArgument
  let (o, words) ← withArguments (given.filter fun a => !isModeArgument a) (options known 1 false)
  let (text, paths) ← match modes, words with
    | m :: ms, words => pure (String.intercalate "," (m :: ms), words)
    | [], [] => missingOperand 1
    | [], w :: ws => if o.has '1' then pure ("", w :: ws) else pure (w, ws)
  if paths.isEmpty then
    misused 1 ("missing operand after " ++ Named.quoted text)
  let change ← match o.last? '1' with
    | some path =>
      match ← node path with
      | .ok (place, _) => pure (ModeChange.fixed ((← tree).modeOf place) true)
      | .error fault => do
        complain ("failed to get attributes of " ++ Named.quoted path ++ ": " ++ fault.text)
        quit 1
    | none =>
      match modeChange? text with
      | some change => pure change
      | none => misused 1 ("invalid mode: " ++ Named.quoted text)
  forEach paths fun path => do
    match ← node path with
    | .ok (place, n) =>
      changeMode o change path place n
      if o.has 'R' && n = .directory then
        for (path, place, n) in everythingBelow (← tree) maxDepth (Tree.withoutSlashes path) place do
          match n with
          | .link _ => pure ()
          | n => changeMode o change path place n
      return 0
    | .error fault =>
      if !o.has 'f' then
        match (← tree).linkNode (← read).directory (ofOctets path) with
        | .ok _ => complain ("cannot operate on dangling symlink " ++ Named.quoted path)
        | .error _ => complain ("cannot access " ++ Named.quoted path ++ ": " ++ fault.text)
      return 1

end ScriptedShell.Local.Program
