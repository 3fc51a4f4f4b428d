/-
# Finding files

A search walks through directories and holds a criterion against each file on the way.  What stands
in a directory is looked up when the search enters it, so what is done with earlier files shows.
-/
import ScriptedShell.Local.Program.Criterion
import ScriptedShell.Local.Program.Facts
import ScriptedShell.Local.Program.Starting

namespace ScriptedShell.Local.Program

open Act Files Text

/-- A file that a search has come to. -/
structure Visit where
  /-- The path that it is shown with, and the one where the search began. -/
  path : String
  start : String
  depth : Nat
  place : Place
  node : Node
  /-- What stands there when links are not followed. -/
  own : Place × Node

/-- What a search does. -/
structure Hunt where
  criterion : Criterion
  most : Option Nat := none
  least : Nat := 0
  isInnerFirst : Bool := false
  follows : Bool := false

/-- How far a search has come. -/
structure HuntState where
  isPruned : Bool := false
  hasStopped : Bool := false
  status : Nat := 0
  /-- Files that are kept for programs, the last one first. -/
  kept : List (Errand × Place × String) := []

/-- Searching. -/
abbrev Hunting := StateT HuntState Act

namespace Visit

/-- The last segment of the path. -/
def name (v : Visit) : String :=
  let path := Tree.withoutSlashes v.path
  if path = "/" then path else Tree.lastSegment path

/-- The path up to the last segment. -/
def front (v : Visit) : String :=
  let (_, front) := v.path.toList.reverse.span (· != '/')
  match front with
  | [] => "."
  | _ :: front => String.ofList front.reverse

/-- The path after the one where the search began. -/
def rest (v : Visit) : String :=
  String.ofList ((v.path.toList.drop v.start.length).dropWhile (· = '/'))

/-- What the file is when a link is followed. -/
def followed (v : Visit) (t : Tree) : Except FileFault Node :=
  match v.own.2 with
  | .link _ => (t.node [] (Tree.pathOf v.own.1)).map (·.2)
  | n => .ok n

/-- The directory that a program for this file runs in, and the path of the file there. -/
def insideOf (v : Visit) : Place × String :=
  let place := if v.name = "." || v.name = ".." then v.place else v.own.1.dropLast
  (place, if v.name = "/" then "/" else "./" ++ v.name)

end Visit

/-! ## Tests -/

/-- Whether a text is like a pattern, where the case of letters may not matter. -/
def isAlike (ignoresCase : Bool) (pattern text : String) : Bool :=
  let fold := fun (s : String) => if ignoresCase then s.map Char.toLower else s
  isLike [fold pattern] (fold text)

/-- Whether a file passes a test. -/
def Test.passes (h : Hunt) (t : Tree) (v : Visit) : Test → Bool
  | .always answer => answer
  | .name pattern ignoresCase => isAlike ignoresCase pattern v.name
  | .path pattern ignoresCase => isAlike ignoresCase pattern v.path
  | .target pattern ignoresCase =>
    match v.node with
    | .link goal => isAlike ignoresCase pattern (toOctets goal)
    | _ => false
  | .like expression ignoresCase =>
    let subject : Regex.Subject := { text := v.path.toList.toArray, ignoresCase }
    (expression.longestAt? subject 0).any fun found => found.stop = subject.text.size
  | .kind letters isOther =>
    let node := if !isOther then v.node
      else if h.follows then v.own.2
      else match v.followed t with
        | .ok n => n
        | .error _ => v.own.2
    let letter := if kindLetter node = "-" then "f" else kindLetter node
    letters.any fun c => String.singleton c = letter
  | .size bound unit => bound.allows ((sizeOf t v.node + unit - 1) / unit)
  | .empty =>
    match v.node with
    | .directory => (t.namesIn v.place).isEmpty
    | .file bytes => bytes.isEmpty
    | _ => false
  | .mode bound => bound.allows (t.modeOf v.place)
  | .changedAfter change => change < t.changedAt v.place
  | .owner bound => bound.allows 0
  | .links bound => bound.allows (linkCount t v.place v.node)
  | .same place => v.place = place
  | .allowed letter => letter != 'x' || Nat.land (t.modeOf v.place) 0o111 != 0

/-! ## Printing -/

/-- The letter for the kind of a node. -/
def plainKind (n : Node) : String := if kindLetter n = "-" then "f" else kindLetter n

/-- The fact about a file that a letter of a form asks for, and whether it is a number. -/
def Visit.fact (v : Visit) (t : Tree) (flags : List Char) : Char → Bool × String
  | 'p' => (false, v.path)
  | 'f' => (false, if v.path.toList.elem '/' && v.name != "/" && !Tree.endsWithSlash v.path
      then v.name else v.path)
  | 'h' => (false, v.front)
  | 'P' => (false, v.rest)
  | 'H' => (false, v.start)
  | 'd' => (true, toString v.depth)
  | 'y' => (false, plainKind v.node)
  | 'Y' => (false, match v.followed t with
    | .ok n => plainKind n
    | .error .tooManyLinks => "L"
    | .error _ => "N")
  | 's' => (true, toString (sizeOf t v.node))
  | 'k' => (true, toString (blocksOf t v.node))
  | 'b' => (true, toString (2 * blocksOf t v.node))
  | 'm' => (true, (if flags.elem '#' then "0" else "") ++ octalText 1 (t.modeOf v.place))
  | 'M' => (false, kindLetter v.node ++ modeLetters (t.modeOf v.place))
  | 'u' | 'g' => (false, "root")
  | 'U' | 'G' => (true, "0")
  | 'n' => (true, toString (linkCount t v.place v.node))
  | 'l' => (false, match v.node with
    | .link target => toOctets target
    | _ => "")
  | 'i' | 'D' => (true, "1")
  | 'F' => (false, "overlay")
  | 'S' => (false, "1")
  | '@' => (false, "0.0000000000")
  | 'a' | 'c' | 't' => (false, "Thu Jan  1 00:00:00.0000000000 1970")
  | 'T' => (false, "1970")
  | _ => (false, "")

/-- A file in a form, and whether the form has been cut. -/
def Visit.inForm (v : Visit) (t : Tree) : List FormPart → String
  | [] => ""
  | .cut :: _ => ""
  | .text text :: rest => text ++ v.inForm t rest
  | .fact flags width most letter :: rest =>
    let (isNumber, text) := v.fact t flags letter
    let text := match most with
      | some n => if isNumber then String.ofList (List.replicate (n - text.length) '0') ++ text
        else String.ofList (text.toList.take n)
      | none => text
    let flags := if isNumber then flags else flags.filter (· != '0')
    widened flags width text ++ v.inForm t rest

/-- A file as it is printed. -/
def Visit.shown (v : Visit) (t : Tree) : FoundForm → String
  | .path ending => v.path ++ ending
  | .parts parts => v.inForm t parts
  | .long =>
    let target := match v.node with
      | .link target => " -> " ++ toOctets target
      | _ => ""
    String.intercalate " " [padLeft 9 "1", padLeft 6 (toString (blocksOf t v.node)),
      kindLetter v.node ++ modeLetters (t.modeOf v.place),
      padLeft 3 (toString (linkCount t v.place v.node)), padRight 8 "root", padRight 8 "root",
      padLeft 8 (toString (sizeOf t v.node)), "Jan  1 00:00", v.path ++ target] ++ "\n"

/-- Print something, or put it at the end of a file. -/
def printTo (goal : Option String) (text : String) : Act Unit := do
  match goal with
  | none => print text
  | some path =>
    let old ← if (streamAt? path).isSome then pure (Except.ok []) else readPath path
    let _ ← writePath path (old.toOption.getD [] ++ text.toList)

/-! ## Actions -/

/-- A complaint that shows in the status. -/
def lament (text : String) : Hunting Unit := do
  complain text
  modify fun s => { s with status := 1 }

/-- Run a program for files; whether it has ended well. -/
def Errand.run (run : Runner) (directory : Option Place) (command : List String) : Act Bool := do
  match command with
  | [] => return true
  | name :: arguments =>
    match ← start run (fun t => { t with directory := directory.getD t.directory }) name
        arguments with
    | .ok (.code n) => return n = 0
    | .ok (.signal n) =>
      complain (Named.escaped name ++ " terminated by signal " ++ toString n)
      return false
    | .error fault =>
      complain (Named.escaped name ++ ": " ++ fault.text)
      return false

/-- Take away the file that a search has come to. -/
def Visit.delete (v : Visit) : Hunting Bool := do
  if v.path = "." then return true
  let t ← tree
  if v.own.2 = .directory && !(t.namesIn v.own.1).isEmpty then
    lament ("cannot delete " ++ Named.escaped v.path ++ ": " ++ FileFault.notEmpty.text)
    return false
  setTree (t.erase v.own.1)
  return true

/-- Do something with a file; whether it went well. -/
def FoundAction.perform (run : Runner) (v : Visit) : FoundAction → Hunting Bool
  | .print form goal => do
    printTo goal (v.shown (← tree) form)
    return true
  | .run e => do
    let (place, inner) := v.insideOf
    let path := if e.isInside then inner else v.path
    let fill := fun (word : String) => String.ofList
      (replaced ['\x7b', '\x7d'] path.toList (word.length + 1) word.toList)
    if e.asks then
      let isWanted ← confirmsFor e.command path
      if !isWanted then return false
    Errand.run run (if e.isInside then some place else none) (e.command.map fill)
  | .keep e => do
    let (place, inner) := v.insideOf
    let path := if e.isInside then inner else v.path
    modify fun s => { s with kept := (e, if e.isInside then place else [], path) :: s.kept }
    return true
  | .delete => v.delete
  | .prune => do
    modify fun s => { s with isPruned := true }
    return true
  | .quit => do
    modify fun s => { s with hasStopped := true }
    return true
where
  /-- Whether the user wants a program to be run. -/
  confirmsFor (command : List String) (path : String) : Act Bool := do
    complainRaw ("< " ++ command.head?.getD "" ++ " ... " ++ path ++ " > ? ")
    match ← stream? 0 with
    | none => return false
    | some file =>
      match (← get).readLine file with
      | .ok (line, s) =>
        set s
        return line.head? = some 'y' || line.head? = some 'Y'
      | .error _ => return false

/-- Whether a criterion holds of a file, with everything that it does. -/
def Criterion.holds (run : Runner) (h : Hunt) (v : Visit) : Criterion → Hunting Bool
  | .test t => do return t.passes h (← tree) v
  | .act a => a.perform run v
  | .no c => do
    let answer ← c.holds run h v
    return !answer
  | .both a b => do
    let answer ← a.holds run h v
    if !answer || (← get).hasStopped then return answer
    b.holds run h v
  | .either a b => do
    let answer ← a.holds run h v
    if answer || (← get).hasStopped then return answer
    b.holds run h v
  | .after a b => do
    let answer ← a.holds run h v
    if (← get).hasStopped then return answer
    b.holds run h v

/-! ## Walking -/

/-- What a search comes to next inside a directory. -/
def Visit.inner (v : Visit) (h : Hunt) (t : Tree) (name : String) : Option Visit :=
  let place := v.place ++ [name]
  let path := if Tree.endsWithSlash v.path then v.path ++ toOctets name
    else v.path ++ "/" ++ toOctets name
  (t.at? place).map fun node =>
    let (final, seen) := match h.follows, t.node v.place name with
      | true, .ok found => found
      | _, _ => (place, node)
    { v with path, depth := v.depth + 1, place := final, node := seen, own := (place, node) }

/-- Hold a criterion against a file, and go on inside it if it is a directory; `outer` has the
directories that the search is in. -/
def Hunt.enter (h : Hunt) (run : Runner) : (fuel : Nat) → (outer : List (Place × String)) →
    Visit → Hunting Unit
  | 0, _, _ => pure ()
  | fuel + 1, outer, v => do
    if (← get).hasStopped then return
    match outer.lookup v.place with
    | some path =>
      if v.node = .directory then
        lament ("File system loop detected; " ++ Named.escaped v.path ++
          " is part of the same file system loop as " ++ Named.escaped path ++ ".")
        return
    | none => pure ()
    if !h.isInnerFirst && h.least ≤ v.depth then
      modify fun s => { s with isPruned := false }
      let _ ← h.criterion.holds run h v
      if (← get).hasStopped || (← get).isPruned then
        modify fun s => { s with isPruned := false }
        return
    if v.node = .directory && h.most.all (v.depth < ·) then
      let t ← tree
      if t.at? v.place = some .directory then
        for name in t.namesIn v.place do
          match v.inner h (← tree) name with
          | some inner => h.enter run fuel ((v.place, v.path) :: outer) inner
          | none => pure ()
      else lament (Named.escaped v.path ++ ": " ++ FileFault.missing.text)
    if h.isInnerFirst && h.least ≤ v.depth then
      if (← get).hasStopped then return
      let _ ← h.criterion.holds run h v

/-- Search from a path on. -/
def Hunt.from (h : Hunt) (run : Runner) (followsFirst : Bool) (path : String) : Hunting Unit := do
  let own ← linkNode path
  match own with
  | .error fault =>
    let fault := if fault = .notDirectory && Tree.endsWithSlash path then .missing else fault
    lament (Named.escaped path ++ ": " ++ fault.text)
  | .ok own =>
    let found ← node path
    let (place, seen) := match followsFirst, found with
      | true, .ok found => found
      | _, _ => own
    h.enter run maxDepth [] { path, start := path, depth := 0, place, node := seen, own }

/-- Run the programs that files have been kept for, the first one first. -/
def runKept (run : Runner) : (fuel : Nat) → List (Errand × Place × String) → Hunting Unit
  | 0, _ => pure ()
  | _, [] => pure ()
  | fuel + 1, (e, place, path) :: rest => do
    let isMine := fun (k : Errand × Place × String) => k.1 = e && k.2.1 = place
    let paths := path :: (rest.filter isMine).map (·.2.2)
    let isFine ← Errand.run run (if e.isInside then some place else none) (e.command ++ paths)
    if !isFine then modify fun s => { s with status := 1 }
    runKept run fuel (rest.filter fun k => !isMine k)

/-! ## The program -/

/-- How links are followed. -/
inductive Following where
  | never
  | first
  | always
  deriving Repr, DecidableEq

/-- The options in front of the paths, and what follows them. -/
def leadingOptions : Following → List String → Act (Following × List String)
  | f, [] => return (f, [])
  | f, w :: ws => do
    match w with
    | "-H" => leadingOptions .first ws
    | "-L" => leadingOptions .always ws
    | "-P" => leadingOptions .never ws
    | "--" => return (f, ws)
    | "-D" =>
      match ws with
      | flag :: ws =>
        complain ("Ignoring unrecognised debug flag " ++ Named.escaped flag)
        leadingOptions f ws
      | [] =>
        complain "Missing argument after the -D option."
        quit 1
    | w =>
      match w.toList with
      | ['-', 'O'] =>
        complain "The -O option must be immediately followed by a decimal integer"
        quit 1
      | '-' :: 'O' :: digits =>
        if digits.all Char.isDigit then leadingOptions f ws
        else
          complain "Please specify a decimal number immediately after -O"
          quit 1
      | _ => return (f, w :: ws)

/-- Find files. -/
def find (run : Runner) : Program := do
  let words ← arguments
  let (following, words) ← leadingOptions .never words
  let (paths, words) := words.span fun w => !isCriterionWord true w
  let (signs, asked) ← (readSigns (words.length + 1) "").run { words, starts := paths }
  match criterionOf signs asked.printsItself with
  | .error fault =>
    complain fault.text
    return 1
  | .ok criterion =>
    let follows := following = .always || asked.follows
    let h : Hunt := { asked with criterion, follows }
    let search : Hunting Unit := do
      for path in if paths.isEmpty then ["."] else paths do
        h.from run (follows || following = .first) path
      let kept := (← get).kept.reverse
      runKept run (kept.length + 1) kept
    let (_, s) ← search.run {}
    return s.status

/-- The programs of this module by their names. -/
def finding : List (String × (Runner → Program)) := [("find", find)]

end ScriptedShell.Local.Program
