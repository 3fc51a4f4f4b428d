/-
# Tasks

A task is a program at work: its arguments, its environment, the directory that it is in and the
streams that it holds.  What it does changes the system that all tasks share, and it ends with a
code or by a signal.
-/
import ScriptedShell.Local.System
import ScriptedShell.Text.Digits

namespace ScriptedShell.Local

open Files Text

/-- The open files that a task holds, by the numbers that it has for them. -/
abbrev Streams := List (Nat × Nat)

/-- The streams with one of them changed. -/
def Streams.set (s : Streams) (stream file : Nat) : Streams :=
  (stream, file) :: List.filter (fun p => p.1 != stream) s

/-- The streams without one of them. -/
def Streams.close (s : Streams) (stream : Nat) : Streams := List.filter (fun p => p.1 != stream) s

/-- A program at work. -/
structure Task where
  /-- The name that the program was called by. -/
  name : String
  arguments : List String := []
  environment : List (String × String) := []
  directory : Place := []
  streams : Streams := []
  /-- The permissions that new files do not get. -/
  mask : Nat := 0o22
  /-- The number of the task, and of the one that has started it. -/
  process : Nat := 1
  parent : Nat := 1
  /-- When the task has to be done, if that is limited. -/
  deadline : Option Nat := none
  deriving Repr

/-- How a task ends. -/
inductive Ended where
  | code (n : Nat)
  | signal (n : Nat)
  deriving Repr, DecidableEq

/-- The code that a shell reports for an end. -/
def Ended.status : Ended → Nat
  | code n => n
  | signal n => 128 + n

/-- The signal that ends a task whose output nobody reads. -/
def pipeSignal : Nat := 13

/-- What a task does: it may end before it has a result. -/
abbrev Act := ReaderT Task (ExceptT Ended (StateM System))

/-- A program: what a task that runs it does, up to the code it ends with. -/
abbrev Program := Act Nat

/-- A way to run the programs of the machine by their names. -/
abbrev Runner := String → Task → System → Ended × System

/-- Run a program as a task. -/
def Program.run (p : Program) (task : Task) (s : System) : Ended × System :=
  match ReaderT.run p task s with
  | (.ok n, s) => (.code (n % 256), s)
  | (.error e, s) => (e, s)

namespace Act

/-- End now. -/
def quit (n : Nat) : Act α := throw (.code n)

/-- The arguments of the task. -/
def arguments : Act (List String) := return (← read).arguments

/-- The file tree. -/
def tree : Act Tree := return (← get).tree

/-- Change the file tree. -/
def setTree (t : Tree) : Act Unit := modify fun s => { s with tree := t }

/-- The open file of a stream. -/
def stream? (n : Nat) : Act (Option Nat) := return (← read).streams.lookup n

/-- Write to a stream: nothing, or why it cannot be written to. -/
def tryWrite (n : Nat) (text : String) : Act (Option StreamFault) := do
  match ← stream? n with
  | none => return some .badStream
  | some file =>
    match (← get).write file text with
    | .ok s => set s; return none
    | .error .brokenPipe => throw (.signal pipeSignal)
    | .error fault => return some fault

/-- Write to the error output. -/
def complainRaw (text : String) : Act Unit := do let _ ← tryWrite 2 text

/-- Write a line to the error output after the name of the program. -/
def complain (text : String) : Act Unit := do
  complainRaw ((← read).name ++ ": " ++ text ++ "\n")

/-- Write a text of bytes to the output. -/
def print (text : String) : Act Unit := do
  if text.isEmpty then return
  match ← tryWrite 1 text with
  | none => return
  | some fault =>
    complain ("write error: " ++ fault.text)
    quit 1

/-- Write a list of bytes to the output. -/
def printChars (text : List Char) : Act Unit := print (String.ofList text)

/-- Read everything from a stream, or say why it cannot be read. -/
def readStream (n : Nat) : Act (Except StreamFault (List Char)) := do
  match ← stream? n with
  | none => return .error .badStream
  | some file =>
    match (← get).readAll file with
    | .ok (text, s) => set s; return .ok text
    | .error fault => return .error fault

/-- The stream of the task itself that a path stands for. -/
def streamAt? (path : String) : Option Nat :=
  let numbered := fun (front : String) =>
    if front.toList.isPrefixOf path.toList then
      let digits := path.toList.drop front.length
      if digits.isEmpty || !digits.all Char.isDigit || 3 < digits.length then none
      else some (digitsValue digits)
    else none
  match path with
  | "/dev/stdin" => some 0
  | "/dev/stdout" => some 1
  | "/dev/stderr" => some 2
  | _ => (numbered "/dev/fd/").or (numbered "/proc/self/fd/")

/-- What stands where a path leads. -/
def node (path : String) : Act (Except FileFault (Place × Node)) := do
  return (← tree).node (← read).directory (ofOctets path)

/-- The bytes of the file at a path. -/
def readPath (path : String) : Act (Except StreamFault (List Char)) := do
  match streamAt? path with
  | some n => readStream n
  | none =>
    match (← tree).node (← read).directory (ofOctets path) with
    | .error fault => return .error (.file fault)
    | .ok (_, .device .zero) => return .ok (List.replicate System.endlessBytes '\x00')
    | .ok (_, n) =>
      match Tree.bytesOf n with
      | .ok bytes => return .ok (octets bytes)
      | .error fault => return .error (.file fault)

/-- The bytes of an operand, where a dash stands for the input. -/
def readOperand (path : String) : Act (Except StreamFault (List Char)) :=
  if path = "-" then readStream 0 else readPath path

/-- Write a file at a path. -/
def writePath (path : String) (text : List Char) : Act (Option FileFault) := do
  match streamAt? path with
  | some n => let _ ← tryWrite n (String.ofList text); return none
  | none =>
    match (← tree).write (← read).directory (ofOctets path) (bytesOf text) with
    | .ok t => setTree t; return none
    | .error fault => return some fault

end Act

end ScriptedShell.Local
