/-
# File trees

A file system as a list of what stands at places, where a place is the list of names that lead to it
from the root.  Paths are walked segment by segment: each segment is looked up in a directory, links
on the way are followed, and a walk can fail because something is missing or is no directory.
-/
import ScriptedShell.Files.Path
import ScriptedShell.Text.Utf8

namespace ScriptedShell.Files

open Text

/-- Why a file cannot be reached, read or written. -/
inductive FileFault where
  | missing
  | notDirectory
  | isDirectory
  | exists
  | notEmpty
  | nameTooLong
  | tooManyLinks
  | denied
  | invalid
  | noDevice
  | noSpace
  /-- A program that runs is there. -/
  | busy
  /-- The system needs what is there. -/
  | inUse
  | notText
  /-- The path has a zero character in it. -/
  | zeroInPath
  deriving Repr, DecidableEq

/-- The wording of a fault by itself. -/
def FileFault.text : FileFault → String
  | missing => "No such file or directory"
  | notDirectory => "Not a directory"
  | isDirectory => "Is a directory"
  | .exists => "File exists"
  | notEmpty => "Directory not empty"
  | nameTooLong => "File name too long"
  | tooManyLinks => "Too many levels of symbolic links"
  | denied => "Permission denied"
  | invalid => "Invalid argument"
  | noDevice => "No such device or address"
  | noSpace => "No space left on device"
  | busy => "Text file busy"
  | inUse => "Device or resource busy"
  | notText => "stream did not contain valid UTF-8"
  | zeroInPath => "file name contained an unexpected NUL byte"

/-- The number that the system has for a fault, if it comes from there. -/
def FileFault.number? : FileFault → Option Nat
  | missing => some 2
  | noDevice => some 6
  | denied => some 13
  | inUse => some 16
  | .exists => some 17
  | notDirectory => some 20
  | isDirectory => some 21
  | invalid => some 22
  | busy => some 26
  | noSpace => some 28
  | nameTooLong => some 36
  | notEmpty => some 39
  | tooManyLinks => some 40
  | notText | zeroInPath => none

/-- The wording of a fault with the number that the system has for it. -/
def FileFault.message (fault : FileFault) : String :=
  match fault.number? with
  | some n => fault.text ++ " (os error " ++ toString n ++ ")"
  | none => fault.text

/-- Files that are no store of bytes. -/
inductive Device where
  /-- Takes everything and gives nothing. -/
  | null
  /-- Gives zeros. -/
  | zero
  /-- Takes nothing. -/
  | full
  | random
  | terminal
  deriving Repr, DecidableEq

/-- What stands at a place. -/
inductive Node where
  | file (bytes : List UInt8)
  | directory
  /-- Another path stands for this one. -/
  | link (target : String)
  /-- A program that the machine can run. -/
  | program (name : String)
  | device (device : Device)
  deriving Repr, DecidableEq

/-- The names that lead from the root to a place. -/
abbrev Place := List String

/-- A file system. -/
structure Tree where
  nodes : List (Place × Node) := []
  /-- The permissions of places where they are not the usual ones. -/
  modes : List (Place × Nat) := []
  /-- When places were changed last, counted in changes. -/
  times : List (Place × Nat) := []
  changeCount : Nat := 0
  deriving Repr

namespace Tree

/-- What stands at a place; at the root there is always a directory. -/
def at? (t : Tree) (place : Place) : Option Node :=
  if place.isEmpty then some .directory else t.nodes.lookup place

/-- Note that a place has changed now. -/
def touch (t : Tree) (place : Place) : Tree :=
  { t with
    times := (place, t.changeCount + 1) :: t.times.filter (·.1 != place)
    changeCount := t.changeCount + 1 }

/-- Put something at a place. -/
def put (t : Tree) (place : Place) (node : Node) : Tree :=
  { t with nodes := (place, node) :: t.nodes.filter (·.1 != place) }.touch place

/-- Take away what stands at a place. -/
def erase (t : Tree) (place : Place) : Tree :=
  { t with
    nodes := t.nodes.filter (·.1 != place)
    modes := t.modes.filter (·.1 != place)
    times := t.times.filter (·.1 != place) }

/-- The number of the last change of a place. -/
def changedAt (t : Tree) (place : Place) : Nat := (t.times.lookup place).getD 0

/-! ## Walking -/

/-- The most bytes that a name can have. -/
def maxNameBytes : Nat := 255

/-- The most bytes that a path can have. -/
def maxPathBytes : Nat := 4095

/-- The most links that are followed on one walk. -/
def maxLinks : Nat := 40

/-- The place where a path begins to be walked. -/
def startOf (current : Place) (path : String) : Place :=
  if Path.isAbsolute path then [] else current

/-- The place that segments lead to from a place, where `onLink` says where to go on from a link.
All places on the way must be directories; the last one may be missing, and a link there is followed
only if `follow` says so. -/
def walkWith (t : Tree) (onLink : Place → String → List String → Except FileFault Place)
    (follow : Bool) : Place → List String → Except FileFault Place
  | place, [] => .ok place
  | place, segment :: rest =>
    match t.at? place with
    | none => .error .missing
    | some .directory =>
      if Path.isStill segment then t.walkWith onLink follow place rest
      else if segment = ".." then t.walkWith onLink follow place.dropLast rest
      else if maxNameBytes < segment.utf8ByteSize then .error .nameTooLong
      else
        let inner := place ++ [segment]
        match t.at? inner with
        | some (.link target) =>
          if follow || !rest.isEmpty then onLink place target rest else .ok inner
        | _ => t.walkWith onLink follow inner rest
    | some _ => .error .notDirectory

/-- The place that segments lead to, with a limit to the links that are followed. -/
def walk (t : Tree) (follow : Bool) : Nat → Place → List String → Except FileFault Place
  | 0 => t.walkWith (fun _ _ _ => .error .tooManyLinks) follow
  | links + 1 => t.walkWith (fun place target rest =>
      t.walk follow links (startOf place target) (Path.segments target ++ rest)) follow

/-- The place that a path leads to from a current directory, however long the path is. -/
def resolve (t : Tree) (follow : Bool) (current : Place) (path : String) :
    Except FileFault Place :=
  if path.toList.elem '\x00' then .error .zeroInPath
  else if path.isEmpty then .error .missing
  else t.walk follow maxLinks (startOf current path) (Path.segments path)

/-- The place that a path leads to from a current directory; a link at its end is not followed. -/
def locateLink (t : Tree) (current : Place) (path : String) : Except FileFault Place :=
  if maxPathBytes < path.utf8ByteSize then .error .nameTooLong else t.resolve false current path

/-- The place that a path leads to from a current directory. -/
def locate (t : Tree) (current : Place) (path : String) : Except FileFault Place :=
  if maxPathBytes < path.utf8ByteSize then .error .nameTooLong else t.resolve true current path

/-- What stands at a place that has been walked to. -/
def found (t : Tree) (place : Place) : Except FileFault (Place × Node) :=
  match t.at? place with
  | some n => .ok (place, n)
  | none => .error .missing

/-- What stands where a path leads. -/
def node (t : Tree) (current : Place) (path : String) : Except FileFault (Place × Node) := do
  t.found (← t.locate current path)

/-- What stands where a path leads, which may be a link. -/
def linkNode (t : Tree) (current : Place) (path : String) : Except FileFault (Place × Node) := do
  t.found (← t.locateLink current path)

/-- The absolute path of a place. -/
def pathOf (place : Place) : String := "/" ++ String.intercalate "/" place

/-! ## Asking -/

/-- Whether a path leads to a file. -/
def isFile (t : Tree) (current : Place) (path : String) : Bool :=
  match t.node current path with
  | .ok (_, .file _) | .ok (_, .program _) => true
  | _ => false

/-- Whether a path leads to a directory. -/
def isDirectory (t : Tree) (current : Place) (path : String) : Bool :=
  match t.node current path with
  | .ok (_, .directory) => true
  | _ => false

/-- Whether a path leads to anything. -/
def reaches (t : Tree) (current : Place) (path : String) : Bool := (t.node current path).isOk

/-- The bytes that the file of a program begins with. -/
def programBytes : List UInt8 := [0x7f, 0x45, 0x4c, 0x46, 2, 1, 1, 0]

/-- The bytes that a node gives when it is read. -/
def bytesOf : Node → Except FileFault (List UInt8)
  | .file bytes => .ok bytes
  | .program _ => .ok programBytes
  | .directory => .error .isDirectory
  | .device .terminal => .error .noDevice
  | _ => .ok []

/-- The bytes of the file that a path leads to. -/
def read (t : Tree) (current : Place) (path : String) : Except FileFault (List UInt8) := do
  bytesOf (← t.node current path).2

/-- The text of the file that a path leads to. -/
def readText (t : Tree) (current : Place) (path : String) : Except FileFault String := do
  match decode? (← t.read current path) with
  | some cs => return String.ofList cs
  | none => throw .notText

/-- The permissions that something has unless they have been changed. -/
def usualMode : Node → Nat
  | .directory | .program _ => 0o755
  | .link _ => 0o777
  | .device _ => 0o666
  | .file _ => 0o644

/-- The permissions of a place. -/
def modeOf (t : Tree) (place : Place) : Nat :=
  (t.modes.lookup place).getD (((t.at? place).map usualMode).getD 0)

/-- The names in a directory, in order. -/
def namesIn (t : Tree) (place : Place) : List String :=
  (t.nodes.filterMap fun (p, _) =>
    if p.dropLast = place && !p.isEmpty then p.getLast? else none).mergeSort

/-- Whether a place lies inside another one, or is the other one. -/
def isWithin (place outer : Place) : Bool := outer.isPrefixOf place

/-! ## Changing -/

/-- Whether a path ends with a slash. -/
def endsWithSlash (path : String) : Bool := path.toList.getLast? = some '/'

/-- The place of a file that is to be written, whose directory is there. -/
def writable (t : Tree) (current : Place) (path : String) : Except FileFault Place := do
  if endsWithSlash path then
    match t.locate current path with
    | .error .notDirectory => throw .notDirectory
    | .error .zeroInPath => throw .zeroInPath
    | _ => throw .isDirectory
  let place ← t.locate current path
  match t.at? place.dropLast, t.at? place with
  | _, some .directory => throw .isDirectory
  | some .directory, _ => return place
  | some _, _ => throw .notDirectory
  | none, _ => throw .missing

/-- Write a file where a path leads, in a directory that is there.  A device keeps nothing. -/
def write (t : Tree) (current : Place) (path : String) (bytes : List UInt8) :
    Except FileFault Tree := do
  let place ← t.writable current path
  match t.at? place with
  | some (.device .terminal) => throw .noDevice
  | some (.device .full) => if bytes.isEmpty then return t else throw .noSpace
  | some (.device _) => return t
  | _ => return t.put place (.file bytes)

/-- Take away the file that a path leads to; of a link, the link itself. -/
def remove (t : Tree) (current : Place) (path : String) : Except FileFault Tree := do
  match ← t.linkNode current path with
  | (_, .directory) => throw .isDirectory
  | (place, _) => return t.erase place

/-- Set the permissions of a place. -/
def setMode (t : Tree) (place : Place) (mode : Nat) : Tree :=
  { t with modes := (place, mode) :: t.modes.filter (·.1 != place) }

/-- Take away what stands at a place and everything inside it. -/
def eraseAll (t : Tree) (place : Place) : Tree :=
  { t with
    nodes := t.nodes.filter fun (p, _) => !isWithin p place
    modes := t.modes.filter fun (p, _) => !isWithin p place
    times := t.times.filter fun (p, _) => !isWithin p place }

/-- The place that something inside a moved place has afterwards. -/
def movedPlace (source target place : Place) : Place :=
  if isWithin place source then target ++ place.drop source.length else place

/-- Move what stands at a place, and everything inside it, to another place. -/
def move (t : Tree) (source target : Place) : Tree :=
  let t := if source = target then t else t.eraseAll target
  { t with
    nodes := t.nodes.map fun (p, n) => (movedPlace source target p, n)
    modes := t.modes.map fun (p, m) => (movedPlace source target p, m)
    times := t.times.map fun (p, c) => (movedPlace source target p, c) }

/-- Make the directories that are missing on the way along segments, and the last one. -/
def makeAlong (t : Tree) : Place → List String → Except FileFault Tree
  | _, [] => .ok t
  | place, segment :: rest =>
    if Path.isStill segment then t.makeAlong place rest
    else if segment = ".." then t.makeAlong place.dropLast rest
    else
      let inner := place ++ [segment]
      match t.at? inner with
      | some .directory => t.makeAlong inner rest
      | some (.link target) =>
        match t.node place target with
        | .ok (place, .directory) => t.makeAlong place rest
        | _ => .error (if rest.all Path.isStill then .exists else .notDirectory)
      | some _ => .error (if rest.all Path.isStill then .exists else .notDirectory)
      | none =>
        if maxNameBytes < segment.utf8ByteSize then .error .nameTooLong
        else (t.put inner .directory).makeAlong inner rest

/-- Make a directory and all directories on the way to it. -/
def makeDirectories (t : Tree) (current : Place) (path : String) : Except FileFault Tree :=
  if path.toList.elem '\x00' then .error .zeroInPath
  else if maxPathBytes < path.utf8ByteSize then .error .nameTooLong
  else t.makeAlong (startOf current path) (Path.segments path)

/-- The tree with a file written at a path and the directories on the way made; as it was if that
cannot be done. -/
def plant (t : Tree) (current : Place) (path : String) (bytes : List UInt8) : Tree :=
  match do
      let t ← t.makeDirectories current ((Path.parent? path).getD "")
      t.write current path bytes with
  | .ok t => t
  | .error _ => t

end Tree

end ScriptedShell.Files
