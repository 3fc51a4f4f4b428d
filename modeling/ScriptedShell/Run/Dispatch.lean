/-
# Dispatching lines and running files

A line is dispatched by its keyword.  A file is run line by line: references are resolved, the
required variables are checked, lines under a condition that does not hold are passed over, and
the others are shown and dispatched.  Files can run other files; how deep is bounded by a number,
and a run that would go deeper has no result.
-/
import ScriptedShell.Run.Builtin

namespace ScriptedShell.Run

open Command Variable Text

variable {σ : Type}

/-- A way to run the file with a name, with the variables of the line that runs it.  There is no
result when the run does not end. -/
abbrev FileRunner (σ : Type) := String → Store → Session σ → Option (Outcome × Session σ)

/-! ## Lines -/

/-- Run files in order, up to the first that stops the run. -/
def importEach (runFile : FileRunner σ) (store : Store) :
    Outcome → List String → Session σ → Option (Outcome × Session σ)
  | last, [], s => some (last, s)
  | _, name :: rest, s =>
    match runFile name store s with
    | none => none
    | some (outcome, s) =>
      if outcome.canContinue then importEach runFile store outcome rest s
      else some (outcome, s)

/-- The files that a line runs: those after the file flag first, then the bare names. -/
def filesOf (line : Line) : List String := line.valuesOf "-f" ++ line.positionals

/-- Run the files on a line. -/
def importFiles (runFile : FileRunner σ) (line : Line) (s : Session σ) :
    Option (Outcome × Session σ) :=
  if (filesOf line).isEmpty then some (.next, s.say "No file to run")
  else
    match importEach runFile line.store .next (filesOf line) { s with mode := .fileRun } with
    | none => none
    | some (outcome, after) => some (outcome, { after with mode := s.mode })

/-- Carry out a line that is neither blank nor a comment, in a file run or outside of one. -/
def perform (r : Runner σ) (runFile : FileRunner σ) (line : Line) (file : Option FileRun)
    (s : Session σ) : Option (Outcome × Option FileRun × Session σ) :=
  let keep := fun (result : Outcome × Session σ) => (result.1, file, result.2)
  match line.keyword with
  | .passthrough => (passOn r line s).map keep
  | .connect => some (keep (openSession r line s))
  | .endConnect => some (keep (closeSession r s))
  | .transfer => some (keep (transferFile r line s))
  | .run => (importFiles runFile line s).map keep
  | .openPath => some (keep (openPath r line s))
  | .back => some (keep (goBack r s))
  | .declare => some (keep (declareVariables line file s))
  | .remove => some (keep (removeVariables line s))
  | .require => some (.next, requireVariables line file s)
  | .unrequire => some (.next, unrequireVariables line file s)
  | .ifExist => some (keep (askFiles r line s))
  | .endIf => some (keep (.next, s))
  | .printMode => some (keep (.next, togglePrint s))
  | .invokeMode => some (keep (.next, setStream true s))
  | .endInvokeMode => some (keep (.next, setStream false s))
  | .clear => some (keep (.next, s.note [.shown .clear]))
  | .fixRow => some (keep (beginFixedRows r line s))
  | .endFixRow => some (keep (.next, { s with remote := s.remote.exitRedraw }))

/-- Dispatch a line; blank lines and comments do nothing.  What the host delivers while lines are read
and files begin and finish is taken in before the next line is carried out. -/
def dispatch (r : Runner σ) (runFile : FileRunner σ) (line : Line) (file : Option FileRun)
    (s : Session σ) : Option (Outcome × Option FileRun × Session σ) :=
  if line.isBlank || line.isComment then some (.next, file, s)
  else perform r runFile line file ((s.pause r .dispatching).note [.dispatched line])

/-! ## Files -/

/-- The stores that the lines of a file refer to. -/
def layersOf (file : FileRun) (s : Session σ) : List Store := [s.store, file.store]

/-- A line of a file with its references resolved. -/
def readLine (r : Runner σ) (file : FileRun) (s : Session σ) (text : String) : Line :=
  resolveLine r.policies (.parse r.policies text) (layersOf file s)

/-- Show a line of a file before it is dispatched. -/
def announce (line : Line) (s : Session σ) : Session σ :=
  if line.isComment then s else s.say ("> " ++ line.masked)

/-- Run the lines of a file, passing them over while `suppress` holds. -/
def runLines (r : Runner σ) (runFile : FileRunner σ) :
    Bool → FileRun → List String → Session σ → Option (Outcome × Session σ)
  | _, _, [], s => some (.next, s)
  | suppress, file, text :: rest, s =>
    if isBlankText text then
      runLines r runFile suppress file rest (if s.echo && !suppress then s.say "" else s)
    else
      let line := readLine r file s text
      match file.missing? (layersOf file s) with
      | some key => some (.halt, s.say (Failure.variableMissing key).message)
      | none =>
        if suppress then
          runLines r runFile (line.keyword != .endIf) file rest s
        else
          match dispatch r runFile line (some file) (announce line s) with
          | none => none
          | some (outcome, after, s) =>
            if outcome.canContinue then
              runLines r runFile (line.keyword = .ifExist && !outcome.isTrue)
                (after.getD file) rest s
            else some (outcome, s)

/-- The lines of the text of a file. -/
def scriptLines (text : String) : List String := (textLines text.toList).map String.ofList

/-- Run the file that a path leads to. -/
def runFound (r : Runner σ) (runFile : FileRunner σ) (name path : String) (store : Store)
    (s : Session σ) : Option (Outcome × Session σ) :=
  if r.around.copier.isFile path s.world then
    match r.around.readText path s.world with
    | .ok text => runLines r runFile false { name, store } (scriptLines text) s
    | .error fault =>
      some (.next, s.say ("Cannot read file " ++ name ++ ": " ++ fault.message))
  else some (.next, s.say (Failure.scriptNotFound name).message)

/-- Run a file, with up to `depth` files inside each other. -/
def runFile (r : Runner σ) : Nat → FileRunner σ
  | 0 => fun _ _ _ => none
  | depth + 1 => fun name store s =>
    let s := s.note [.started name store] |>.say ("Start run file " ++ name)
    let path := Files.Path.join (r.around.currentDirectory s.world) name
    (runFound r (runFile r depth) name path store s).map fun (outcome, s) =>
      (outcome, s.say ("Finish run file " ++ name))

/-! ## Entry points -/

/-- How many files can run inside each other. -/
def maxDepth : Nat := 1000

namespace Runner

/-- Run a line that the user has typed. -/
def runLine (r : Runner σ) (text : String) (s : Session σ) : Option (Outcome × Session σ) :=
  if isBlankText text then some (.next, s)
  else
    let s := { s with mode := .userInput }
    let line := resolveLine r.policies (.parse r.policies text) [s.store]
    match dispatch r (runFile r maxDepth) line none s with
    | none => none
    | some (outcome, _, s) => some (outcome, s.refresh r)

/-- Run text as if it were a file with a name and variables. -/
def runScript (r : Runner σ) (name text : String) (store : Store) (s : Session σ) :
    Option (Outcome × Session σ) :=
  match runLines r (runFile r maxDepth) false { name, store } (scriptLines text)
      { s with mode := .fileRun } with
  | none => none
  | some (outcome, after) => some (outcome, { after with mode := s.mode }.refresh r)

/-- Close the remote session, if one is open. -/
def shutdown (r : Runner σ) (s : Session σ) : Session σ :=
  { s with remote := (s.remote.disconnect r.around.host r.setup).2 }

end Runner

end ScriptedShell.Run
