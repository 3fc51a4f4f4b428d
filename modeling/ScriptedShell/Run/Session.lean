/-
# Runs

A run dispatches lines against a session.  It is a function of its surroundings: the hosts, the
file copier, the local shell and the files that it uses.
-/
import ScriptedShell.Local.Result
import ScriptedShell.Remote.Session
import ScriptedShell.Remote.Transfer
import ScriptedShell.Run.FileRun
import ScriptedShell.Run.Outcome
import ScriptedShell.Variable.Substitution

namespace ScriptedShell.Run

open Command Variable Local Files

/-- What happens while the local shell runs a script. -/
inductive LocalEvent where
  /-- A line of its output is handed on. -/
  | line (text : String)
  /-- The host of the remote session delivers. -/
  | delivery (d : Remote.Delivery)
  deriving Repr, DecidableEq

/-- What comes of handing a script to the local shell: what happens while it runs, in order, its
result, and the world after it. -/
structure Invoked (σ : Type) where
  events : List LocalEvent := []
  result : ShellResult
  world : σ

/-- What comes of a script during which nothing happens but that its output is handed on. -/
def Invoked.ofResult {σ : Type} (result : ShellResult) (world : σ) : Invoked σ :=
  { events := result.output.map .line, result, world }

/-- What a run uses outside itself, acting on worlds of type `σ`. -/
structure Surroundings (σ : Type) where
  host : Remote.Host σ
  copier : Remote.Copier σ
  /-- The directory that local paths are taken from. -/
  currentDirectory : σ → String
  /-- Hand a script to the local shell. -/
  invoke : String → σ → Invoked σ
  /-- The text of the file that a path leads to. -/
  readText : String → σ → Except FileFault String

/-- Where lines come from. -/
inductive Mode where
  | userInput
  | fileRun
  deriving Repr, DecidableEq

/-- The state of a run between lines. -/
structure Session (σ : Type) where
  remote : Remote.Session σ
  store : Store := {}
  mode : Mode := .userInput
  /-- Whether blank lines of files are shown. -/
  echo : Bool := false
  /-- Whether local output is shown as it comes. -/
  stream : Bool := false
  /-- The local directory in which the session started. -/
  startPath : String
  /-- The place that the prompt names. -/
  location : String

/-- What a run is made with. -/
structure Runner (σ : Type) where
  settings : Settings
  width : Nat
  around : Surroundings σ

namespace Runner

variable {σ : Type}

/-- The policies in force. -/
def policies (r : Runner σ) : PolicyTable := .withOverrides r.settings.capture

/-- What remote sessions are set up with. -/
def setup (r : Runner σ) : Remote.Setup :=
  ⟨r.settings.remote, r.settings.display.anchorRow, r.width⟩

/-- A session that starts in the current directory. -/
def newSession (r : Runner σ) (world : σ) : Session σ :=
  let start := r.around.currentDirectory world
  { remote := { world }, startPath := start, location := start }

end Runner

namespace Session

variable {σ : Type}

/-- The world as it is now. -/
def world (s : Session σ) : σ := s.remote.world

/-- Add activities to the trace. -/
def note (s : Session σ) (activities : List Activity) : Session σ :=
  { s with remote := s.remote.note activities }

/-- Write a line to the console. -/
def say (s : Session σ) (text : String) : Session σ := { s with remote := s.remote.say text }

/-- Write lines to the console. -/
def sayAll (s : Session σ) (texts : List String) : Session σ := texts.foldl say s

/-- Writing lines to the console changes no variable. -/
theorem store_sayAll (s : Session σ) (texts : List String) : (s.sayAll texts).store = s.store := by
  induction texts generalizing s with
  | nil => rfl
  | cons text texts ih => exact ih (s.say text)

/-- The session after a moment at which its host may deliver. -/
def pause (s : Session σ) (r : Runner σ) (m : Remote.Moment) : Session σ :=
  { s with remote := s.remote.pause r.around.host r.setup m }

/-- Take in what the host delivers. -/
def deliverAll (s : Session σ) (r : Runner σ) (ds : List Remote.Delivery) : Session σ :=
  { s with remote := s.remote.deliverAll r.width ds }

/-- Take in what happens while a script runs; its lines are shown as they come if they are
streamed. -/
def takeIn (s : Session σ) (r : Runner σ) (streamed : Bool) : LocalEvent → Session σ
  | .line text => if streamed then s.say text else s
  | .delivery d => s.deliverAll r [d]

/-- Take in all that happens while a script runs. -/
def takeInAll (s : Session σ) (r : Runner σ) (streamed : Bool) (events : List LocalEvent) :
    Session σ := events.foldl (fun s event => s.takeIn r streamed event) s

/-- What happens while a script runs changes no variable. -/
theorem store_takeInAll (s : Session σ) (r : Runner σ) (streamed : Bool)
    (events : List LocalEvent) : (s.takeInAll r streamed events).store = s.store := by
  induction events generalizing s with
  | nil => rfl
  | cons event events ih =>
    refine (ih (s.takeIn r streamed event)).trans ?_
    cases event with
    | line text =>
      rw [takeIn]
      split <;> rfl
    | delivery d => rfl

/-- The prompt of the session. -/
def prompt (s : Session σ) : String := s.location ++ "> "

/-- The session with the place that its prompt names brought up to date: the remote location while
a connection is held, else the local directory. -/
def refresh (s : Session σ) (r : Runner σ) : Session σ :=
  { s with location :=
      if s.remote.isConnected then
        (s.remote.inbox.location.or (s.remote.endpoint.map fun e => e.destination)).getD ""
      else r.around.currentDirectory s.world }

end Session

end ScriptedShell.Run
