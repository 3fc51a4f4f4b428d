/-
# Builtin commands

What each command does to a session.  A command that fails says so on the console; only opening a
session and lines sent to a remote shell can stop the run.
-/
import ScriptedShell.Run.Session

namespace ScriptedShell.Run

open Command Variable Local Text

variable {σ : Type}

/-! ## Remote sessions -/

/-- Close the remote session and stop the run. -/
def hangUp (r : Runner σ) (s : Session σ) : Outcome × Session σ :=
  (.halt, { s with remote := (s.remote.disconnect r.around.host r.setup).2 })

/-- Send a line to the remote shell.  Failures of the stream have been shown when they came. -/
def sendLine (r : Runner σ) (line : Line) (s : Session σ) : Option (Outcome × Session σ) :=
  match s.remote.send r.around.host r.setup line.raw with
  | (.output _, remote) => some (.next, { s with remote })
  | (.failed (.streamClosed _), remote) => some (hangUp r { s with remote })
  | (.failed cause, remote) => some (hangUp r ({ s with remote }.say cause.message))
  | (.unanswered, _) => none

/-- Open a remote session. -/
def openSession (r : Runner σ) (line : Line) (s : Session σ) : Outcome × Session σ :=
  if s.remote.isConnected then hangUp r (s.say "Cannot create new ssh connections in ssh mode")
  else match Remote.Endpoint.ofLine r.settings.remote line with
    | .error fault => (.halt, s.say fault.message)
    | .ok endpoint =>
      let s := s.say "Create new ssh connection"
      let (failure, remote) := s.remote.connect r.around.host r.setup endpoint
      (if failure.isNone then .next else .halt, { s with remote })

/-- Close the remote session. -/
def closeSession (r : Runner σ) (s : Session σ) : Outcome × Session σ :=
  match s.remote.disconnect r.around.host r.setup with
  | (true, remote) => (.next, { s with remote })
  | (false, remote) => (.next, { s with remote }.say "No ssh connection to close")

/-- Copy a file. -/
def transferFile (r : Runner σ) (line : Line) (s : Session σ) : Outcome × Session σ :=
  match Remote.TransferSpec.ofLine r.settings.remote line with
  | .error fault => (.next, s.say fault.message)
  | .ok spec =>
    let base := r.around.currentDirectory s.world
    let done := spec.execute r.around.copier base s.world
    let s := { s with remote := { s.remote with world := done.world } }.note done.trace
    let s := s.deliverAll r done.deliveries
    (.next, s.sayAll (done.failure.toList.map Failure.message))

/-- Begin fixed-row mode. -/
def beginFixedRows (r : Runner σ) (line : Line) (s : Session σ) : Outcome × Session σ :=
  let enter := fun row =>
    match s.remote.enterRedraw r.around.host r.setup row with
    | (none, remote) => (.next, { s with remote })
    | (some _, remote) => (.next, { s with remote }.say "Fixed-row mode needs an ssh connection")
  match line.positionals with
  | [] => enter none
  | text :: _ =>
    match boundedNumber Remote.maxRow text.toList with
    | some row => enter (some row)
    | none => (.next, s.say "Row must be a positive number")

/-! ## The local shell -/

/-- Hand a script to the local shell and show its result. -/
def invokeScript (r : Runner σ) (script : String) (streamed : Bool) (s : Session σ) :
    Outcome × Session σ :=
  let done := r.around.invoke script s.world
  let s := { s with remote := { s.remote with world := done.world } }.note [.invoked script]
  (.next, (s.takeInAll r streamed done.events).sayAll (done.result.shownLines streamed))

/-- Pass a line on: to the remote shell if a session is open, else to the local one. -/
def passOn (r : Runner σ) (line : Line) (s : Session σ) : Option (Outcome × Session σ) :=
  if s.remote.isConnected then sendLine r line s
  else some (invokeScript r line.raw s.stream s)

/-- Open a path with the program for it. -/
def openPath (r : Runner σ) (line : Line) (s : Session σ) : Outcome × Session σ :=
  let path := line.positionals.head?.getD "."
  invokeScript r (r.settings.shell.openCommand ++ " " ++ path) false s

/-- Go back to the directory in which the session started. -/
def goBack (r : Runner σ) (s : Session σ) : Outcome × Session σ :=
  invokeScript r ("cd " ++ s.startPath) false s

/-! ## Variables -/

/-- Declare the variables of a list of pairs. -/
def declareAll : List (String × String) → Session σ → Session σ
  | [], s => s
  | (name, value) :: rest, s =>
    let key := marked name
    let s := { s with store := s.store.declare key value }
    declareAll rest (s.say ("Declare variable " ++ key ++ " = " ++ value))

/-- What is said about a variable that is looked up. -/
def lookupMessage (layers : List Store) (name : String) : String :=
  let key := marked name
  match lookup key layers with
  | some value => "Variable " ++ key ++ " = " ++ value
  | none => "Variable " ++ key ++ " not found"

/-- Declare the pairs on a line, or look up its names if it has no pair. -/
def declareVariables (line : Line) (file : Option FileRun) (s : Session σ) :
    Outcome × Session σ :=
  if line.arguments.isEmpty then (.next, s.say "No variable to declare")
  else if line.pairs.isEmpty then
    let layers := s.store :: (file.map FileRun.store).toList
    (.next, s.sayAll (line.positionals.map (lookupMessage layers)))
  else (.next, declareAll line.pairs s)

/-- Remove the variables with the given keys. -/
def removeAll : List String → Session σ → Session σ
  | [], s => s
  | key :: rest, s =>
    match s.store.remove key with
    | (some _, store) =>
      removeAll rest ({ s with store }.say ("Variable " ++ key ++ " has been removed"))
    | (none, store) =>
      removeAll rest ({ s with store }.say ("Variable " ++ key ++ " not found"))

/-- Remove the variables on a line. -/
def removeVariables (line : Line) (s : Session σ) : Outcome × Session σ :=
  if line.positionals.isEmpty then (.next, s.say "No variables are removed")
  else (.next, removeAll line.positionals s)

/-- What is said where no file is being run. -/
def noFileMessage : String := "Required variables only apply to file runs"

/-- Register keys as required. -/
def requireAll : List String → FileRun → Session σ → FileRun × Session σ
  | [], file, s => (file, s)
  | key :: rest, file, s =>
    match file.require key with
    | (true, file) => requireAll rest file (s.say ("Register required variable: " ++ key))
    | (false, file) => requireAll rest file (s.say ("Variable " ++ key ++ " is already required"))

/-- Drop keys from the required ones. -/
def unrequireAll : List String → FileRun → Session σ → FileRun × Session σ
  | [], file, s => (file, s)
  | key :: rest, file, s =>
    match file.unrequire key with
    | (true, file) =>
      unrequireAll rest file
        (s.say ("Variable " ++ key ++ " has been removed from required list"))
    | (false, file) => unrequireAll rest file s

/-- Register the keys on a line as required by the file being run. -/
def requireVariables (line : Line) (file : Option FileRun) (s : Session σ) :
    Option FileRun × Session σ :=
  match file with
  | none => (none, s.say noFileMessage)
  | some file =>
    let (file, s) := requireAll (line.positionals.map marked) file s
    (some file, s)

/-- Drop the keys on a line from those required by the file being run. -/
def unrequireVariables (line : Line) (file : Option FileRun) (s : Session σ) :
    Option FileRun × Session σ :=
  match file with
  | none => (none, s.say noFileMessage)
  | some file =>
    let keys := line.positionals.map marked
    if keys.isEmpty then (some file, s.say "No variables are removed from required list")
    else
      let (file, s) := unrequireAll keys file s
      (some file, s)

/-! ## Conditions and modes -/

/-- What is said about a file whose existence is asked. -/
def existMessage (name : String) (found : Bool) : String :=
  "File「" ++ name ++ "」is " ++ (if found then "exist : true" else "not exist : false")

/-- Ask whether all files on a line exist; the condition holds in file runs only. -/
def askFiles (r : Runner σ) (line : Line) (s : Session σ) : Outcome × Session σ :=
  let base := r.around.currentDirectory s.world
  let names := line.arguments.map fun part => String.intercalate " " part.words
  let found := names.map fun name =>
    (name, r.around.copier.isFile (Files.Path.join base name) s.world)
  let holds := s.mode = .fileRun && !found.isEmpty && found.all fun (_, there) => there
  (if holds then .ifTrue else .endIf,
    s.sayAll (found.map fun (name, there) => existMessage name there))

/-- Turn the showing of blank lines on or off. -/
def togglePrint (s : Session σ) : Session σ :=
  { s with echo := !s.echo }.say (if s.echo then "Print mode off" else "Print mode on")

/-- Show local output as it comes, or when it is complete. -/
def setStream (on : Bool) (s : Session σ) : Session σ :=
  { s with stream := on }.say (if on then "Invoke mode on" else "Invoke mode off")

end ScriptedShell.Run
