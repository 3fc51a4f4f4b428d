/-
# Changes of trees

How directories are made and taken away one at a time, and where something new can be placed: its
own directory has to be there.  What turns one file tree into another is a list of changes that can
be carried out one after the other.
-/
import ScriptedShell.Files.Tree

namespace ScriptedShell.Files

namespace Tree

/-! ## Single changes -/

/-- A path without the slashes at its end, unless it is the root. -/
def withoutSlashes (path : String) : String :=
  let kept := (path.toList.reverse.dropWhile (· = '/')).reverse
  if kept.isEmpty && !path.isEmpty then "/" else String.ofList kept

/-- The last segment of a path. -/
def lastSegment (path : String) : String :=
  ((Path.segments (withoutSlashes path)).getLast?).getD ""

/-- The place where something new is to stand: nothing stands there, and its directory does. -/
def vacant (t : Tree) (current : Place) (path : String) : Except FileFault Place := do
  let place ← t.locateLink current (withoutSlashes path)
  if (t.at? place).isSome then throw .exists
  match t.at? place.dropLast with
  | some .directory => return place
  | some _ => throw .notDirectory
  | none => throw .missing

/-- Make one directory. -/
def makeDirectory (t : Tree) (current : Place) (path : String) (mode : Nat) :
    Except FileFault Tree := do
  let place ← t.vacant current path
  let made := t.put place .directory
  return if mode = 0o755 then made else made.setMode place mode

/-- Take away an empty directory. -/
def removeDirectory (t : Tree) (current : Place) (path : String) : Except FileFault Tree := do
  let (place, node) ← t.linkNode current
    (if endsWithSlash path then withoutSlashes path else path)
  if node != .directory then throw .notDirectory
  if lastSegment path = "." then throw .invalid
  if place.isEmpty then throw .inUse
  if lastSegment path = ".." || !(t.namesIn place).isEmpty then throw .notEmpty
  return t.erase place

/-- Make a link to a path. -/
def makeLink (t : Tree) (current : Place) (target path : String) : Except FileFault Tree := do
  return t.put (← t.vacant current path) (.link target)

end Tree

/-! ## Differences -/

/-- One change of a tree. -/
inductive Change where
  | removed (place : Place)
  | placed (place : Place) (node : Node)
  deriving Repr, DecidableEq

namespace Tree

/-- The places of one tree where nothing stands in another one; inner places come first. -/
def lostIn (before after : Tree) : List Place :=
  let lost := (before.nodes.map (·.1)).filter fun place => (after.at? place).isNone
  lost.mergeSort fun p q => q.length ≤ p.length

/-- What stands in a tree where something else, or nothing, stands in another one; outer places
come first. -/
def newIn (before after : Tree) : List (Place × Node) :=
  let new := after.nodes.filter fun (place, node) => before.at? place != some node
  new.mergeSort fun p q => p.1.length ≤ q.1.length

/-- The changes that turn one tree into another. -/
def changes (before after : Tree) : List Change :=
  (lostIn before after).map .removed ++
    (newIn before after).map fun (place, node) => .placed place node

end Tree

end ScriptedShell.Files
