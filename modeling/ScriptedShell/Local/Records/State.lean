/-
# Records and tables

What the rules work on: variables and tables of values, the record with its fields, and the files and
commands that are read and written.
-/
import Std.Data.HashMap
import ScriptedShell.Files.Changes
import ScriptedShell.Local.Program.Starting
import ScriptedShell.Local.Records.Token
import ScriptedShell.Local.Records.Value
import ScriptedShell.Regex.Search

namespace ScriptedShell.Local.Records

open Number Text

/-! ## Tables -/

/-- A value in a table. -/
structure Element where
  value : Value := .unset
  /-- When the element was used by its name the last time; an element that has only been used by its
  number has none. -/
  stamp : Option Nat := none

/-- A table of values. -/
structure Table where
  elements : Std.HashMap String Element := {}
  /-- The next stamp. -/
  next : Nat := 0
  /-- Whether an element lacks its stamp. -/
  isPending : Bool := false

instance : Inhabited Table := ⟨{}⟩

/-- The name of an element: whether it is a number, and its text. -/
structure Key where
  text : String
  isNumber : Bool := false

namespace Table

/-- The number that the name of an element scatters to. -/
def scatter (name : String) : Nat :=
  name.toList.foldl (fun (h : Nat) c => (Nat.xor h c.toNat * 16777619) % Nat.pow 2 32) 2166136261

/-- The number of the lists that a table of some size spreads its elements over, less one. -/
def lists (size : Nat) : (fuel mask : Nat) → Nat
  | 0, mask => mask
  | fuel + 1, mask => if (mask + 1) * 12 < size then lists size fuel (2 * mask + 1) else mask

/-- The table with stamps for all elements: those that have been used by their numbers get theirs in
the order of the numbers. -/
def settle (t : Table) : Table :=
  if !t.isPending then t
  else
    let mask := lists t.elements.size 64 63
    let pending := t.elements.toList.filterMap fun (name, e) =>
      if e.stamp.isNone then some (name, (leadingNumber name).toInt?.getD 0) else none
    let place := fun (n : Int) => (n % (mask + 1 : Nat)).toNat
    let sorted := pending.mergeSort fun a b =>
      place a.2 < place b.2 || (place a.2 = place b.2 && b.2 ≤ a.2)
    sorted.foldl (fun (t : Table) p =>
      { t with
        elements := t.elements.modify p.1 fun e => { e with stamp := some t.next }
        next := t.next + 1 }) { t with isPending := false }

/-- The table with an element made or used. -/
def touch (t : Table) (k : Key) : Table :=
  if k.isNumber then
    if t.elements.contains k.text then t
    else { t with elements := t.elements.insert k.text {}, isPending := true }
  else
    let t := t.settle
    let e := (t.elements.get? k.text).getD {}
    { t with elements := t.elements.insert k.text { e with stamp := some t.next }, next := t.next + 1 }

/-- The value of an element. -/
def value (t : Table) (k : Key) : Value := ((t.elements.get? k.text).map Element.value).getD .unset

/-- The table with a value for an element. -/
def put (t : Table) (k : Key) (value : Value) : Table :=
  let t := t.touch k
  { t with elements := t.elements.modify k.text fun e => { e with value } }

/-- The table without an element. -/
def erase (t : Table) (k : Key) : Table := { t with elements := t.elements.erase k.text }

/-- The names of the elements: by the lists that they are in, and in each the one that has been used
last comes first. -/
def names (t : Table) : List String :=
  let t := t.settle
  let mask := lists t.elements.size 64 63
  let keyed := t.elements.toList.map fun (name, e) =>
    (scatter name % (mask + 1), e.stamp.getD 0, name)
  let sorted := keyed.mergeSort fun a b => a.1 < b.1 || (a.1 = b.1 && b.2.1 ≤ a.2.1)
  sorted.map fun p => p.2.2

/-- The table of values with the numbers from one on as their names. -/
def ofList (values : List Value) : Table :=
  (values.zipIdx 1).foldl (fun t (v, i) => t.put ⟨toString i, true⟩ v) {}

end Table

/-- What a variable holds. -/
inductive Cell where
  /-- Nothing yet; if it becomes a table, it may be a certain one. -/
  | unset (table : Option Nat)
  | value (v : Value)
  | table (n : Nat)

instance : Inhabited Cell := ⟨.unset none⟩

/-! ## Cutting texts -/

/-- What stands between fields or between records. -/
inductive Separator where
  /-- Gaps, which also stand before the first field and after the last one. -/
  | gaps
  /-- Nothing: every character is a field. -/
  | nothing
  | char (c : Char)
  /-- Lines without characters. -/
  | emptyLines
  | pattern (r : Regex)

namespace Separator

/-- The words of a text. -/
def wordsOf : (word : List Char) → List Char → List (List Char)
  | [], [] => []
  | word, [] => [word.reverse]
  | word, c :: cs =>
    if isGap c then if word.isEmpty then wordsOf [] cs else word.reverse :: wordsOf [] cs
    else wordsOf (c :: word) cs

/-- The first stretch from a place on that is not empty. -/
def find? (r : Regex) (s : Regex.Subject) : (fuel place : Nat) → Option Regex.Found
  | 0, _ => none
  | fuel + 1, place =>
    match r.search? s place with
    | some f => if f.start < f.stop then some f else find? r s fuel (f.start + 1)
    | none => none

/-- The pieces of a text between stretches that a pattern fits. -/
def cut (r : Regex) (s : Regex.Subject) : (fuel place start : Nat) → List (List Char)
  | 0, place, _ => [s.between place s.text.size]
  | fuel + 1, place, start =>
    match find? r s (s.text.size + 1 - start) start with
    | some f => s.between place f.start :: cut r s fuel f.stop f.stop
    | none => [s.between place s.text.size]

/-- The fields of a text. -/
def fields (sep : Separator) (cs : List Char) : List (List Char) :=
  if cs.isEmpty then []
  else match sep with
    | gaps => wordsOf [] cs
    | nothing => cs.map ([·])
    | char c => piecesOf (· = c) cs
    | emptyLines => piecesOf (· = '\n') cs
    | pattern r => cut r { text := cs.toArray } (cs.length + 1) 0 0

end Separator

/-- A text that is read piece by piece. -/
structure Input where
  text : Array Char
  place : Nat := 0

instance : Inhabited Input := ⟨{ text := #[] }⟩

namespace Input

/-- How many characters from a place on satisfy `p`. -/
def runFrom (text : Array Char) (p : Char → Bool) : (fuel place : Nat) → Nat
  | 0, place => place
  | fuel + 1, place =>
    if (text[place]?).any p then runFrom text p fuel (place + 1) else place

/-- The next record, and what is left. -/
def record? (i : Input) (sep : Separator) : Option (String × Input) :=
  let size := i.text.size
  let between := fun (start stop : Nat) => String.ofList (i.text.extract start stop).toList
  let go := fun (p : Char → Bool) (place : Nat) => runFrom i.text p (size - place) place
  match sep with
  | .emptyLines =>
    let start := go (· = '\n') i.place
    if size ≤ start then none
    else
      let r : Regex := .repeated (Regex.char '\n') 2 none
      match Separator.find? r { text := i.text } (size + 1 - start) start with
      | some f => some (between start f.start, { i with place := f.stop })
      | none =>
        let stop := if i.text[size - 1]? = some '\n' then size - 1 else size
        some (between start stop, { i with place := size })
  | .pattern r =>
    if size ≤ i.place then none
    else match Separator.find? r { text := i.text } (size + 1 - i.place) i.place with
      | some f => some (between i.place f.start, { i with place := f.stop })
      | none => some (between i.place size, { i with place := size })
  | .char c =>
    if size ≤ i.place then none
    else
      let stop := go (· != c) i.place
      some (between i.place stop, { i with place := stop + 1 })
  | _ =>
    if size ≤ i.place then none
    else
      let stop := go (· != '\n') i.place
      some (between i.place stop, { i with place := stop + 1 })

end Input

/-! ## The state -/

/-- A file or command that is read. -/
structure Inlet where
  name : String
  input : Input
  /-- How the command has ended, if it is one. -/
  ended : Option Ended := none

/-- A file or command that is written. -/
structure Outlet where
  name : String
  way : Outward
  /-- The number of the open file. -/
  file : Option Nat := none
  /-- What has been written and not been passed on, the last text first. -/
  waiting : List String := []

/-- The state of the rules. -/
structure RecordState where
  shared : Std.HashMap String Cell := {}
  /-- The variables of the routine that is carried out. -/
  own : Array Cell := #[]
  tables : Std.HashMap Nat Table := {}
  nextTable : Nat := 0
  /-- The record as a text, and whether that has been given to it by a rule. -/
  record : String := ""
  isGiven : Bool := false
  /-- Whether the text of the record has to be put together from the fields. -/
  isChanged : Bool := false
  fields : Array Value := #[]
  /-- What the record has to be cut at, if its fields are not known yet. -/
  uncut : Option String := none
  patterns : Std.HashMap String Regex := {}
  /-- The file that is read, and the number of the argument that comes next. -/
  main : Option Input := none
  argument : Nat := 1
  hasOpened : Bool := false
  isDone : Bool := false
  inlets : List Inlet := []
  /-- The outlets, the last one first. -/
  outlets : List Outlet := []
  /-- What has been printed and not been passed on, the last text first, and its size. -/
  waiting : List String := []
  waitingSize : Nat := 0
  /-- The rules for stretches of records that have begun and not ended. -/
  begun : List Nat := []
  seed : Value := .number (Quantity.ofNat 1)
  chance : Nat := 1
  code : Nat := 0

/-- Why statements are left. -/
inductive Jump where
  | nextRecord
  | nextFile
  | leave
  | goOn
  | giveBack (v : Value)
  | exit
  /-- Nothing is carried out any more. -/
  | halt

/-- Carrying out rules. -/
abbrev Handling := ExceptT Jump (StateT RecordState Act)

namespace Handling

/-! ## Shared variables -/

/-- Do something as a task. -/
def act (a : Act α) : Handling α := ExceptT.lift (StateT.lift a)

/-- The value of a shared variable that is not the number of the fields. -/
def plain (name : String) : Handling Value := do
  return match (← get).shared.get? name with
    | some (.value v) => v
    | _ => .unset

/-- Give a value to a shared variable that is not the number of the fields. -/
def setPlain (name : String) (v : Value) : Handling Unit :=
  modify fun s => { s with shared := s.shared.insert name (.value v) }

/-- The format for numbers that become texts. -/
def conversion : Handling String := do
  return match (← get).shared.get? "CONVFMT" with
    | some (.value (.text s)) | some (.value (.input s)) => s
    | _ => "%.6g"

/-- The value of a shared variable as a text. -/
def plainText (name : String) : Handling String := do
  return (← plain name).toText (← conversion)

/-! ## Complaints -/

/-- Write a line to the error output after the name of the program. -/
def complain (text : String) : Handling Unit := do
  let task : Task ← act read
  let name := Files.Tree.lastSegment task.name
  act (Act.complainRaw (name ++ ": " ++ text ++ "\n"))

/-- End because of a fault. -/
def halt : Handling α := do
  modify fun s => { s with code := 2 }
  throw .halt

/-- Complain about a fault at the record, and end. -/
def fault (text : String) : Handling α := do
  let path ← plainText "FILENAME"
  let inFile ← plainText "FNR"
  let all ← plainText "NR"
  let count := fun (s : String) => if s.isEmpty then "0" else s
  complain ("run time error: " ++ text ++ "\n\tFILENAME=\"" ++ path ++ "\" FNR=" ++ count inFile ++
    " NR=" ++ count all)
  halt

/-! ## Patterns and separators -/

/-- The pattern that a text writes. -/
def pattern (s : String) : Handling Regex := do
  match (← get).patterns.get? s with
  | some r => return r
  | none =>
    match patternOf s.toList with
    | .ok r =>
      modify fun st => { st with patterns := st.patterns.insert s r }
      return r
    | .error f => fault (RuleFault.text (.pattern f.text s))

/-- What a text stands for between fields. -/
def fieldSeparator (s : String) : Handling Separator := do
  match s.toList with
  | [] => return .nothing
  | [' '] => return .gaps
  | [c] => return .char c
  | _ => return .pattern (← pattern s)

/-- What a text stands for between records. -/
def recordSeparator : Handling Separator := do
  match (← get).shared.get? "RS" with
  | some (.value v) =>
    let s := v.toText "%.6g"
    match s.toList with
    | [] => return .emptyLines
    | [c] => return .char c
    | _ => return .pattern (← pattern s)
  | _ => return .char '\n'

/-! ## The record -/

/-- Cut the record into its fields, if that has not been done. -/
def cut : Handling Unit := do
  match (← get).uncut with
  | none => return
  | some separator =>
    let sep ← fieldSeparator separator
    modify fun s =>
      let pieces := sep.fields s.record.toList
      { s with
        fields := (pieces.map fun p => Value.input (String.ofList p)).toArray, uncut := none }

/-- The number of the fields. -/
def fieldCount : Handling Nat := do
  cut
  return (← get).fields.size

/-- Have a new record. -/
def setRecord (text : String) : Handling Unit := do
  let separator ← plainText "FS"
  modify fun s => { s with record := text, isGiven := false, isChanged := false, uncut := some separator }

/-- The record as a text. -/
def recordText : Handling String := do
  let s ← get
  if !s.isChanged then return s.record
  let separator ← plainText "OFS"
  let conversion ← conversion
  let text := separator.intercalate (s.fields.toList.map (Value.toText conversion))
  modify fun s => { s with record := text, isChanged := false }
  return text

/-- The most fields that a record can have. -/
def maxFields : Nat := 1000000

/-- Change the number of the fields. -/
def setFieldCount (n : Int) : Handling Unit := do
  if n < 0 then fault "negative value assigned to NF"
  cut
  modify fun s =>
    let n := min n.toNat maxFields
    let gap := Array.replicate (n - s.fields.size) (Value.text "")
    { s with fields := (s.fields ++ gap).extract 0 n, isChanged := true }

/-- The value of a field; the one with the number zero is the record. -/
def field (n : Int) : Handling Value := do
  if n < 0 then fault ("negative field index $" ++ toString n)
  if n = 0 then
    let text ← recordText
    return if (← get).isGiven then .text text else .input text
  cut
  return ((← get).fields[n.toNat - 1]?).getD .unset

/-- Give a value to a field. -/
def setField (n : Int) (v : Value) : Handling Unit := do
  if n < 0 then fault ("negative field index $" ++ toString n)
  if n = 0 then
    setRecord (v.toText (← conversion))
    match v with
    | .text _ => modify fun s => { s with isGiven := true }
    | _ => pure ()
  else
    let count ← fieldCount
    if count < n.toNat then setFieldCount n
    modify fun s => { s with fields := s.fields.set! (n.toNat - 1) v, isChanged := true }

/-- The value of a shared variable. -/
def shared (name : String) : Handling Value := do
  if name = "NF" then return .ofNat (← fieldCount) else plain name

/-- Give a value to a shared variable. -/
def setShared (name : String) (v : Value) : Handling Unit := do
  if name = "NF" then setFieldCount (v.toNumber.clamped (-(Nat.pow 2 31)) (Nat.pow 2 31)) else setPlain name v

/-! ## Tables -/

/-- What a place for a variable holds. -/
def cellOf : Slot → Handling Cell
  | .shared name => return ((← get).shared.get? name).getD (.unset none)
  | .own i => return ((← get).own[i]?).getD (.unset none)

/-- Change what a place for a variable holds. -/
def setCell (slot : Slot) (c : Cell) : Handling Unit :=
  match slot with
  | .shared name => modify fun s => { s with shared := s.shared.insert name c }
  | .own i => modify fun s =>
    { s with own := if i < s.own.size then s.own.set! i c else s.own }

/-- A new table. -/
def newTable : Handling Nat := do
  let n := (← get).nextTable
  modify fun s => { s with nextTable := n + 1 }
  return n

/-- The table in a place for a variable. -/
def tableIn (slot : Slot) : Handling Nat := do
  match ← cellOf slot with
  | .table n => return n
  | .unset (some n) =>
    setCell slot (.table n)
    return n
  | _ =>
    let n ← newTable
    setCell slot (.table n)
    return n

/-- A table. -/
def table (n : Nat) : Handling Table := return ((← get).tables.get? n).getD {}

/-- Change a table. -/
def setTable (n : Nat) (t : Table) : Handling Unit :=
  modify fun s => { s with tables := s.tables.insert n t }

/-- Change a table by a function. -/
def changeTable (n : Nat) (f : Table → Table) : Handling Unit :=
  modify fun s =>
    let t := (s.tables.get? n).getD {}
    let s := { s with tables := s.tables.erase n }
    { s with tables := s.tables.insert n (f t) }

/-- The name of an element for some values. -/
def keyOf (index : List Value) : Handling Key := do
  match index with
  | [.number q] =>
    let text := (Value.number q).toText (← conversion)
    return ⟨text, q.toInt?.any fun (n : Int) => -(Nat.pow 2 31) ≤ n && n < Nat.pow 2 31⟩
  | [v] => return ⟨v.toText (← conversion), false⟩
  | index =>
    let separator ← plainText "SUBSEP"
    let conversion ← conversion
    return ⟨separator.intercalate (index.map (Value.toText conversion)), false⟩

/-! ## Writing -/

/-- Say that a file cannot be written, and end. -/
def lost (name : String) (f : StreamFault) : Handling α := do
  complain ("close failed on file \"" ++ name ++ "\" (" ++ f.text ++ ")")
  halt

/-- Pass on what has been printed. -/
def flushOutput : Handling Unit := do
  let s ← get
  if s.waiting.isEmpty then return
  set { s with waiting := [], waitingSize := 0 }
  match ← act (Act.tryWrite 1 (String.join s.waiting.reverse)) with
  | none => return
  | some f => lost "/dev/stdout" f

/-- Pass on what has been written to a file. -/
def flushOutlet (o : Outlet) : Handling Outlet := do
  match o.file with
  | none => return o
  | some file =>
    if o.waiting.isEmpty then return o
    match (← getThe System).write file (String.join o.waiting.reverse) with
    | .ok system =>
      set system
      return { o with waiting := [] }
    | .error f => lost o.name f

/-- Pass on everything. -/
def flushAll : Handling Unit := do
  flushOutput
  let outlets ← (← get).outlets.mapM flushOutlet
  modify fun s => { s with outlets }

/-- The most bytes that wait before they are passed on. -/
def maxWaiting : Nat := 4096

/-- Print a text to the output. -/
def emit (text : String) : Handling Unit := do
  modify fun s =>
    { s with waiting := text :: s.waiting, waitingSize := s.waitingSize + text.length }
  if maxWaiting < (← get).waitingSize then flushOutput

/-- The status that rules see for an end. -/
def statusOf : Ended → Int
  | .code n => n
  | .signal n => 256 + n

/-- Run a command, and say how it has ended. -/
def runCommand (run : Runner) (name command : String) (change : Task → Task) : Handling Ended := do
  match ← act (Program.start run change name ["-c", command]) with
  | .ok ended => return ended
  | .error _ => return .code 127

/-- Run the command that has been written to, with what has been written. -/
def feed (run : Runner) (o : Outlet) : Handling Ended := do
  let (input, output, system) := (← getThe System).newPipe
  set system
  match (← getThe System).write output (String.join o.waiting.reverse) with
  | .ok system => set system
  | .error _ => pure ()
  runCommand run "/bin/sh" o.name fun t => { t with streams := t.streams.set 0 input }

/-- Close an outlet, and give its status. -/
def closeOutlet (run : Runner) (o : Outlet) : Handling Int := do
  match o.way with
  | .command =>
    let ended ← feed run o
    return statusOf ended
  | _ =>
    let _ ← flushOutlet o
    return 0

/-- Open an outlet. -/
def openOutlet (way : Outward) (name : String) : Handling Outlet := do
  match way with
  | .command =>
    flushAll
    return { name, way }
  | way =>
    let task : Task ← act read
    let how : System.Opening :=
      { canWrite := true, makes := true, empties := way = .file, appends := way = .fileEnd }
    match (← getThe System).openPath task.directory (ofOctets name) how task.mask with
    | .ok (file, system) =>
      set system
      return { name, way, file := some file }
    | .error f =>
      complain ("cannot open \"" ++ name ++ "\" for output (" ++ f.text ++ ")")
      halt

/-- Print a text to a file or a command. -/
def emitTo (way : Outward) (name text : String) : Handling Unit := do
  if way != .command && (name = "/dev/stdout" || name = "-") then emit text
  else if way != .command && name = "/dev/stderr" then act (Act.complainRaw text)
  else
    let isIt := fun (o : Outlet) => o.name = name && (o.way = .command) = (way = .command)
    match (← get).outlets.find? isIt with
    | some _ =>
      modify fun s =>
        { s with
          outlets := s.outlets.map fun o =>
            if isIt o then { o with waiting := text :: o.waiting } else o }
    | none =>
      let o ← openOutlet way name
      modify fun s => { s with outlets := { o with waiting := [text] } :: s.outlets }

/-- Close what has a name; its status, if there is such a thing. -/
def close (run : Runner) (name : String) : Handling Int := do
  let s ← get
  set { s with
    outlets := s.outlets.filter (·.name != name), inlets := s.inlets.filter (·.name != name) }
  match s.outlets.find? (·.name = name), s.inlets.find? (·.name = name) with
  | some o, _ => closeOutlet run o
  | none, some i => return (i.ended.map statusOf).getD 0
  | none, none => return -1

/-- Close everything. -/
def closeAll (run : Runner) : Handling Unit := do
  let outlets := (← get).outlets
  modify fun s => { s with outlets := [] }
  for o in outlets do
    let _ ← closeOutlet run o
  flushOutput

/-! ## Reading -/

/-- The text of a file that is read, or why it cannot be. -/
def contents (path : String) : Handling (Except StreamFault (List Char)) :=
  act (Act.readOperand path)

/-- Say that a file cannot be read, and end. -/
def unreadable : Handling α := do
  complain ("read error (" ++ Files.FileFault.isDirectory.text ++ ")")
  halt

/-- The assignment that an argument writes: a name and a value. -/
def assignment? (text : String) : Option (String × String) :=
  match text.toList.span (· != '=') with
  | (name, _ :: value) =>
    let isFirst := fun (c : Char) => c.isAlpha || c = '_'
    if name.head?.any isFirst && name.all fun c => isFirst c || c.isDigit then
      some (String.ofList name,
        String.ofList (Token.unescaped (value.length + 1) value))
    else none
  | _ => none

/-- Begin to read a file. -/
def openMain (path : String) : Handling Unit := do
  match ← contents path with
  | .ok text =>
    setPlain "FILENAME" (.text path)
    setPlain "FNR" (.ofNat 0)
    modify fun s => { s with main := some { text := text.toArray }, hasOpened := true }
  | .error (.file .isDirectory) => unreadable
  | .error f =>
    complain ("cannot open \"" ++ path ++ "\" (" ++ f.text ++ ")")
    halt

/-- Open the next file among the arguments; whether there is one.  Without a file the input is
read. -/
def openNext : (fuel : Nat) → Handling Bool
  | 0 => return false
  | fuel + 1 => do
    let s ← get
    let count := (← plain "ARGC").toNumber.clamped 0 (Nat.pow 2 31)
    if count ≤ s.argument then
      if s.hasOpened then return false
      openMain "-"
      return true
    set { s with argument := s.argument + 1 }
    let arguments ← table (← tableIn (.shared "ARGV"))
    let text := (arguments.value ⟨toString s.argument, true⟩).toText (← conversion)
    if text.isEmpty then openNext fuel
    else match assignment? text with
      | some (name, value) =>
        setShared name (.input value)
        openNext fuel
      | none =>
        openMain text
        return true

/-- Read the next record, if there is one. -/
def nextRecord? : (fuel : Nat) → Handling (Option String)
  | 0 => return none
  | fuel + 1 => do
    if (← get).isDone then return none
    match (← get).main with
    | none =>
      let count := (← plain "ARGC").toNumber.clamped 0 (Nat.pow 2 31)
      if ← openNext (count.toNat + 1) then nextRecord? fuel
      else
        modify fun s => { s with isDone := true }
        return none
    | some input =>
      match input.record? (← recordSeparator) with
      | some (text, input) =>
        modify fun s => { s with main := some input }
        let more := fun (v : Value) => Value.number (v.toNumber.add (Quantity.ofNat 1))
        setPlain "NR" (more (← plain "NR"))
        setPlain "FNR" (more (← plain "FNR"))
        return some text
      | none =>
        modify fun s => { s with main := none }
        nextRecord? fuel

/-- The most files that are looked at for one record. -/
def maxFiles : Nat := 100000

/-- Read the next record of a file or a command that is open. -/
def nextFrom (name : String) : Handling (Option String) := do
  let sep ← recordSeparator
  match (← get).inlets.find? (·.name = name) with
  | none => return none
  | some inlet =>
    match inlet.input.record? sep with
    | none => return none
    | some (text, input) =>
      modify fun s =>
        { s with
          inlets := s.inlets.map fun i => if i.name = name then { i with input } else i }
      return some text

/-- Open a file to be read next to the others; whether it can be read. -/
def openInlet (name : String) : Handling Bool := do
  if (← get).inlets.any (·.name = name) then return true
  match ← contents name with
  | .ok text =>
    modify fun s => { s with inlets := { name, input := { text := text.toArray } } :: s.inlets }
    return true
  | .error (.file .isDirectory) => unreadable
  | .error _ => return false

/-- Run a command whose output is read. -/
def openCommand (run : Runner) (name : String) : Handling Unit := do
  if (← get).inlets.any (·.name = name) then return
  flushAll
  let (input, output, system) := (← getThe System).newPipe
  set system
  let ended ← runCommand run "/bin/sh" name fun t => { t with streams := t.streams.set 1 output }
  let text := (← getThe System).pipeText input
  modify fun s =>
    { s with inlets := { name, input := { text := text.toArray }, ended := some ended } :: s.inlets }

end Handling

end ScriptedShell.Local.Records
