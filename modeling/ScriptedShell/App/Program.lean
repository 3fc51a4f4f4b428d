/-
# The program

The program reads its arguments and its settings.  With a script among the arguments it runs the
script and ends; else it asks for lines and runs each of them until it is told to end.  It goes on
in steps, each of which prints some text and then either asks for a line or ends with a code.
-/
import ScriptedShell.App.About
import ScriptedShell.App.Arguments
import ScriptedShell.App.Workplace
import ScriptedShell.Run.Dispatch
import ScriptedShell.Settings.Storage

namespace ScriptedShell.App

open Local Text

/-! ## Steps -/

/-- A program that is asking for a line. -/
structure Talk where
  runner : Run.Runner Workplace
  session : Run.Session Workplace

/-- Where a program stands between steps. -/
inductive Stage where
  | ended (code : Nat) (machine : Machine)
  | asking (talk : Talk)

namespace Stage

/-- The code that the program has ended with. -/
def code? : Stage → Option Nat
  | ended code _ => some code
  | asking _ => none

/-- The machine as it is now. -/
def machine : Stage → Machine
  | ended _ machine => machine
  | asking talk => talk.session.world.machine

end Stage

/-- What a program prints, and where it stands after that. -/
structure Step where
  printed : String := ""
  stage : Stage

/-- What is read when the program asks for a line. -/
inductive Input where
  | line (text : String)
  /-- The line is no text. -/
  | unreadable
  /-- There are no more lines. -/
  | ended
  deriving Repr, DecidableEq

/-- The code of a program that has done its work. -/
def successCode : Nat := 0

/-- The code of a program that has failed. -/
def failureCode : Nat := 1

/-- The code of a program whose files run each other without an end. -/
def endlessCode : Nat := 134

namespace Talk

/-- What the session has shown, as a terminal receives it. -/
def shown (t : Talk) : String := Terminal.renderAll (shownEntries t.session.remote.trace)

/-- The program with nothing shown yet. -/
def cleared (t : Talk) : Talk :=
  { t with session := { t.session with remote := { t.session.remote with trace := [] } } }

/-- Show what there is to show, and ask for a line. -/
def ask (t : Talk) : Step := ⟨t.shown ++ t.session.prompt, .asking t.cleared⟩

/-- Close what is open, and end with a code. -/
def finish (t : Talk) (code : Nat) : Step :=
  let t := { t with session := t.runner.shutdown t.session }
  ⟨t.shown, .ended code t.session.world.machine⟩

/-- Run a line, and go on with its outcome. -/
def runLine (t : Talk) (line : String) (next : Run.Outcome → Talk → Step) : Step :=
  match t.runner.runLine line t.session with
  | some (outcome, session) => next outcome { t with session }
  | none => { stage := .ended endlessCode t.session.world.machine }

/-- The line that ends the program. -/
def exitLine : String := "exit"

/-- Go on with what has been read. -/
def answer (t : Talk) : Input → Step
  | .ended => t.finish successCode
  | .unreadable => t.finish failureCode
  | .line text =>
    let line := trimmed text
    if line = exitLine then t.finish successCode else t.runLine line fun _ t => t.ask

/-- Run a script, and end. -/
def runScript (t : Talk) (script : List String) : Step :=
  t.runLine (scriptLine script) fun outcome t =>
    t.finish (if outcome.canContinue then successCode else failureCode)

end Talk

namespace Step

/-- The step with text printed before it. -/
def after (s : Step) (text : String) : Step := { s with printed := text ++ s.printed }

/-- Both steps in one, where the second is what follows when the program reads an input. -/
def feed (s : Step) (input : Input) : Step :=
  match s.stage with
  | .ended .. => s
  | .asking talk => (talk.answer input).after s.printed

end Step

/-! ## The beginning -/

/-- The settings that options ask for. -/
def settingsOf (m : Machine) (options : Options) : Except Failure Settings :=
  match options.settingsPath with
  | some path => Storage.load Codec.standard m path
  | none => .ok (Storage.initial Codec.standard m)

/-- The variable that names the columns of the terminal. -/
def columnsVariable : String := "COLUMNS"

/-- A program with settings, about to begin. -/
def talkOf (spawn : Spawner) (m : Machine) (settings : Settings) : Talk :=
  let runner : Run.Runner Workplace :=
    { settings
      width := settings.display.effectiveWidth (m.environment.lookup columnsVariable)
      around := Workplace.surroundings spawn settings.remote }
  ⟨runner, runner.newSession (.ofSettings settings m)⟩

/-- The first step of the program: it asks for a line, or has done what its arguments ask for. -/
def start (spawn : Spawner) (m : Machine) (arguments : List String) : Step :=
  match Request.ofArguments arguments with
  | .help => ⟨helpText, .ended successCode m⟩
  | .version => ⟨versionLine, .ended successCode m⟩
  | .pathMissing => ⟨helpText, .ended failureCode m⟩
  | .run options script =>
    match settingsOf m options with
    | .error _ => { stage := .ended failureCode m }
    | .ok settings =>
      let talk := talkOf spawn m settings
      (if script.isEmpty then talk.ask.after "User input mode\n"
        else (talk.runScript script).after "CommandLine args mode\n").after versionLine

/-! ## Whole runs -/

/-- What is read from the bytes of a line. -/
def Input.ofBytes (bytes : List UInt8) : Input :=
  match decode? bytes with
  | some text => .line (String.ofList text)
  | none => .unreadable

/-- What is read from all bytes of an input, one after the other. -/
def inputsOf (bytes : List UInt8) : List Input :=
  let pieces := splitAtEach (· == 10) bytes
  let lines := if pieces.getLast? = some [] then pieces.dropLast else pieces
  lines.map Input.ofBytes ++ [.ended]

/-- A whole run of the program, with all bytes of its input. -/
def runAll (spawn : Spawner) (m : Machine) (arguments : List String) (input : List UInt8) : Step :=
  (inputsOf input).foldl Step.feed (start spawn m arguments)

end ScriptedShell.App
