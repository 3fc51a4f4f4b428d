/-
# Open files

What running programs share: the file tree, the files that are open, and the pipes between programs.
A program holds numbers of open files; programs that hold the same number share the place in the
file that is read or written next.
-/
import ScriptedShell.Files.Tree
import ScriptedShell.Text.Octets

namespace ScriptedShell.Local

open Files Text

/-- What an open file leads to. -/
inductive Target where
  | pipe (number : Nat)
  | file (place : Place)
  | device (device : Device)
  | directory (place : Place)
  deriving Repr, DecidableEq

/-- An open file. -/
structure OpenFile where
  target : Target
  /-- The number of bytes before the one that is read or written next. -/
  offset : Nat := 0
  canRead : Bool := true
  canWrite : Bool := false
  /-- Whether everything is written at the end of the file. -/
  appends : Bool := false
  deriving Repr, DecidableEq

/-- What has been written to a pipe and not been read: texts of bytes, first those that are being
read, then later ones with the last one first. -/
structure Pipe where
  front : List Char := []
  back : List String := []
  /-- The number of all bytes written so far. -/
  size : Nat := 0
  deriving Repr, DecidableEq

/-- The pipe with everything that can be read in its front. -/
def Pipe.gather (p : Pipe) : Pipe :=
  if p.back.isEmpty then p
  else { p with front := p.front ++ (p.back.reverse.map String.toList).flatten, back := [] }

/-- Why a stream cannot be used. -/
inductive StreamFault where
  | file (fault : FileFault)
  /-- The stream is not open for this. -/
  | badStream
  /-- Nobody reads what is written. -/
  | brokenPipe
  | noSpace
  deriving Repr, DecidableEq

/-- The wording of a fault of a stream. -/
def StreamFault.text : StreamFault → String
  | file fault => fault.text
  | badStream => "Bad file descriptor"
  | brokenPipe => "Broken pipe"
  | noSpace => "No space left on device"

/-- What running programs share. -/
structure System where
  tree : Tree
  opened : List (Nat × OpenFile) := []
  pipes : List (Nat × Pipe) := []
  next : Nat := 0
  /-- The number of the next task. -/
  nextProcess : Nat := 1
  /-- The signals that tasks have been sent and not taken, the last one first. -/
  sent : List (Nat × Nat) := []
  /-- The thousandths of a second that tasks have waited so far. -/
  clock : Nat := 0
  deriving Repr

namespace System

/-! ## Tasks -/

/-- The number of a new task. -/
def newProcess (s : System) : Nat × System :=
  (s.nextProcess, { s with nextProcess := s.nextProcess + 1 })

/-- Send a signal to a task. -/
def send (s : System) (process signal : Nat) : System :=
  { s with sent := (process, signal) :: s.sent }

/-- The signals that a task has been sent, the first one first, and the system without them. -/
def takeSent (s : System) (process : Nat) : List Nat × System :=
  let mine := s.sent.filter (·.1 = process)
  if mine.isEmpty then ([], s)
  else ((mine.map (·.2)).reverse, { s with sent := s.sent.filter (·.1 != process) })

/-! ## Opening -/

/-- Open a file, and give its number. -/
def hold (s : System) (file : OpenFile) : Nat × System :=
  (s.next, { s with opened := (s.next, file) :: s.opened, next := s.next + 1 })

/-- An open pipe: the number of the end that is read, and of the end that is written. -/
def newPipe (s : System) : Nat × Nat × System :=
  let pipe := s.next
  let s := { s with pipes := (pipe, {}) :: s.pipes, next := s.next + 1 }
  let (input, s) := s.hold { target := .pipe pipe }
  let (output, s) := s.hold { target := .pipe pipe, canRead := false, canWrite := true }
  (input, output, s)

/-- How a file is opened. -/
structure Opening where
  canRead : Bool := false
  canWrite : Bool := false
  /-- Whether the file is made when it is not there. -/
  makes : Bool := false
  empties : Bool := false
  appends : Bool := false
  /-- Whether a file that is there must not be opened. -/
  isNew : Bool := false

/-- Open what a path leads to. -/
def openPath (s : System) (current : Place) (path : String) (how : Opening) (mask : Nat) :
    Except FileFault (Nat × System) := do
  let whole := fun (target : Target) => s.hold
    { target, canRead := how.canRead, canWrite := how.canWrite, appends := how.appends }
  match s.tree.node current path with
  | .ok (place, .directory) =>
    if how.canWrite then throw (if how.isNew then .exists else .isDirectory)
    else return whole (.directory place)
  | .ok (_, .device .terminal) => throw .noDevice
  | .ok (_, .device device) => return whole (.device device)
  | .ok (place, node) =>
    if how.isNew then throw .exists
    match node, how.canWrite with
    | .program _, true => throw .busy
    | _, _ =>
      let (n, s) := whole (.file place)
      return (n, if how.empties then { s with tree := s.tree.put place (.file []) } else s)
  | .error .missing =>
    if how.makes then
      let place ← s.tree.writable current path
      let tree := s.tree.put place (.file [])
      let mode := 0o666 &&& (0o777 ^^^ mask)
      let tree := if mode = 0o644 then tree else tree.setMode place mode
      let (n, s) := whole (.file place)
      return (n, { s with tree })
    else throw .missing
  | .error fault => throw fault

/-- The open file with a number. -/
def file? (s : System) (number : Nat) : Option OpenFile := s.opened.lookup number

/-- Change the open file with a number. -/
def setFile (s : System) (number : Nat) (file : OpenFile) : System :=
  { s with opened := s.opened.map fun (n, f) => if n = number then (n, file) else (n, f) }

/-- Change a pipe. -/
def setPipe (s : System) (number : Nat) (pipe : Pipe) : System :=
  { s with pipes := s.pipes.map fun (n, p) => if n = number then (n, pipe) else (n, p) }

/-- A pipe. -/
def pipe (s : System) (number : Nat) : Pipe := (s.pipes.lookup number).getD {}

/-! ## Writing -/

/-- The most bytes that are written to a pipe.  Programs run one after the other, so a program that
writes without an end is stopped here; the one that reads would have ended long before. -/
def maxPipeBytes : Nat := 2000000

/-- The bytes of the file at a place. -/
def bytesAt (s : System) (place : Place) : List UInt8 :=
  match s.tree.at? place with
  | some (.file bytes) => bytes
  | some (.program _) => Tree.programBytes
  | _ => []

/-- Bytes with other bytes written over them from an offset on. -/
def overwrite (old : List UInt8) (offset : Nat) (new : List UInt8) : List UInt8 :=
  if offset = old.length then old ++ new
  else
    old.take offset ++ List.replicate (offset - old.length) 0 ++ new ++
      old.drop (offset + new.length)

/-- Write a text of bytes to an open file. -/
def write (s : System) (number : Nat) (text : String) : Except StreamFault System :=
  match s.file? number with
  | none => .error .badStream
  | some f =>
    if !f.canWrite then .error .badStream
    else match f.target with
      | .device .full => .error .noSpace
      | .device _ | .directory _ => .ok s
      | .pipe n =>
        let p := s.pipe n
        if maxPipeBytes < p.size then .error .brokenPipe
        else .ok (s.setPipe n { p with back := text :: p.back, size := p.size + text.length })
      | .file place =>
        let old := s.bytesAt place
        let offset := if f.appends then old.length else f.offset
        let new := bytesOf text.toList
        let s := { s with tree := s.tree.put place (.file (overwrite old offset new)) }
        .ok (s.setFile number { f with offset := offset + new.length })

/-! ## Reading -/

/-- The bytes of a device that gives them without an end, as many as anything here asks for. -/
def endlessBytes : Nat := 65536

/-- Everything that can be read from an open file. -/
def available (s : System) (number : Nat) : Except StreamFault (List Char) :=
  match s.file? number with
  | none => .error .badStream
  | some f =>
    if !f.canRead then .error .badStream
    else match f.target with
      | .device .zero | .device .full | .device .random => .ok (List.replicate endlessBytes '\x00')
      | .device _ => .ok []
      | .directory _ => .error (.file .isDirectory)
      | .pipe n => .ok (s.pipe n).gather.front
      | .file place => .ok (octets ((s.bytesAt place).drop f.offset))

/-- The system after some bytes have been read from an open file, with the ones left over. -/
def consumed (s : System) (number count : Nat) (left : List Char) : System :=
  match s.file? number with
  | none => s
  | some f =>
    match f.target with
    | .pipe n => s.setPipe n { (s.pipe n).gather with front := left }
    | _ => s.setFile number { f with offset := f.offset + count }

/-- Read everything. -/
def readAll (s : System) (number : Nat) : Except StreamFault (List Char × System) := do
  let text ← s.available number
  return (text, s.consumed number text.length [])

/-- Read a line, with its line feed if it has one. -/
def readLine (s : System) (number : Nat) : Except StreamFault (List Char × System) := do
  let (line, left) := (← s.available number).span (· != '\n')
  match left with
  | [] => return (line, s.consumed number line.length [])
  | feed :: left => return (line ++ [feed], s.consumed number (line.length + 1) left)

/-- Everything that has been written to a pipe. -/
def pipeText (s : System) (number : Nat) : List Char :=
  match s.file? number with
  | some { target := .pipe n, .. } => (s.pipe n).gather.front
  | _ => []

end System

end ScriptedShell.Local
