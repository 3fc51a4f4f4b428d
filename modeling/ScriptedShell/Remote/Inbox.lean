/-
# The inbox of a remote session

Bytes from a remote shell come in chunks that can be cut anywhere.  The inbox puts lines together
again, drops the echo of the line that was sent, tells prompts and requests for the password from
output, and draws output either line by line or below a fixed row.

A line is handled once it is ended by a line break.  What stands after the last break is kept as
bytes, since it may end inside a character or a control sequence, unless it already reads as a
finished prompt or as a request for the password: these are never followed by a break.
-/
import ScriptedShell.Activity
import ScriptedShell.Remote.Prompt
import ScriptedShell.Terminal.Escape
import ScriptedShell.Text.Lines
import ScriptedShell.Text.Utf8

namespace ScriptedShell.Remote

open Text Terminal

/-- Where a session is in its life. -/
inductive Phase where
  | disconnected
  | connecting
  | idle
  | awaitingPrompt
  deriving Repr, DecidableEq

/-- The largest row of a screen. -/
def maxRow : Nat := 65535

/-- The row below a row; the largest row is below itself. -/
def rowBelow (row : Nat) : Nat := min (row + 1) maxRow

/-- Drawing at fixed rows: the prompt at the anchor, output from the row below it on. -/
structure Redraw where
  active : Bool := false
  anchor : Nat := 0
  /-- The row of the next output line. -/
  nextRow : Nat := 0
  /-- The last row that may hold output. -/
  lastRow : Nat := 0
  deriving Repr, DecidableEq

/-- What has come in from the remote shell, and what is known from it. -/
structure Inbox where
  /-- The number of times that the session has begun anew; older deliveries are ignored. -/
  generation : Nat := 0
  phase : Phase := .disconnected
  user : String := ""
  superuser : String := ""
  passwordCue : String := ""
  lastSent : Option String := none
  /-- Bytes after the last line break. -/
  pending : List UInt8 := []
  /-- Output since the last prompt. -/
  queue : List String := []
  /-- Output before the last prompt. -/
  completed : List String := []
  promptSeen : Bool := false
  /-- Whether a privileged command may still ask for the password. -/
  awaitingCue : Bool := false
  cueSeen : Bool := false
  location : Option String := none
  redraw : Redraw := {}
  streamError : Option String := none
  deriving Repr, DecidableEq

namespace Inbox

/-! ## Lines -/

/-- What a trimmed line is taken for. -/
def classify (b : Inbox) (line : String) : LineKind :=
  if b.lastSent = some line then .echo
  else if b.awaitingCue && isPasswordCue line b.passwordCue then .cue
  else if isPromptLine line b.user b.superuser then .prompt
  else .output

/-- Draw a row, cut or filled to the width of the screen. -/
def drawRow (width row : Nat) (text : String) : Activity :=
  .shown (.row row (fitToWidth text width))

/-- What a prompt draws in fixed-row mode: the prompt at the anchor, and blanks over the rows that
an earlier command left behind. -/
def Redraw.promptRows (r : Redraw) (width : Nat) (line : String) : List Activity :=
  drawRow width r.anchor line ::
    (List.range' r.nextRow (r.lastRow + 1 - r.nextRow)).map fun row => drawRow width row ""

/-- Fixed-row mode after a prompt. -/
def Redraw.afterPrompt (r : Redraw) : Redraw :=
  { r with lastRow := max (r.nextRow - 1) r.anchor }

/-- Fixed-row mode after a line of output. -/
def Redraw.afterOutput (r : Redraw) : Redraw :=
  { r with nextRow := rowBelow r.nextRow, lastRow := max r.lastRow r.nextRow }

/-- The inbox after a prompt. -/
def afterPrompt (b : Inbox) (line : String) : Inbox :=
  { b with
    location := some (promptLocation line)
    redraw := if b.redraw.active then Redraw.afterPrompt b.redraw else b.redraw
    completed := b.queue
    queue := []
    awaitingCue := false
    promptSeen := true }

/-- The inbox after a line of output. -/
def afterOutput (b : Inbox) (line : String) : Inbox :=
  { b with
    redraw := if b.redraw.active then Redraw.afterOutput b.redraw else b.redraw
    queue := b.queue ++ [line] }

/-- What a line shows on the console. -/
def display (b : Inbox) (width : Nat) (line : String) : LineKind → List Activity
  | .echo | .cue => []
  | .prompt => if b.redraw.active then Redraw.promptRows b.redraw width line else []
  | .output =>
    if b.redraw.active then [drawRow width b.redraw.nextRow line] else [.shown (.line line)]

/-- The inbox after a line of some kind. -/
def afterLine (b : Inbox) (line : String) : LineKind → Inbox
  | .echo => b
  | .cue => { b with awaitingCue := false, cueSeen := true }
  | .prompt => b.afterPrompt line
  | .output => b.afterOutput line

/-- Handle one line; blanks around it do not count and a blank line is nothing. -/
def handleLine (width : Nat) (b : Inbox) (text : List Char) : Inbox × List Activity :=
  let line := String.ofList (trim text)
  if line.isEmpty then (b, [])
  else
    let kind := b.classify line
    (b.afterLine line kind, .heard line kind :: b.display width line kind)

/-- Handle lines one after the other. -/
def handleLines (width : Nat) : Inbox → List (List Char) → Inbox × List Activity
  | b, [] => (b, [])
  | b, text :: rest =>
    let (b, first) := b.handleLine width text
    let (b, others) := b.handleLines width rest
    (b, first ++ others)

/-! ## Chunks -/

/-- Whether a byte is a line feed or a carriage return. -/
def isBreakByte (b : UInt8) : Bool := b == 10 || b == 13

/-- Bytes up to and with the last line break, and the bytes after it. -/
def cutAtLastBreak (bytes : List UInt8) : List UInt8 × List UInt8 :=
  let tail := (bytes.reverse.takeWhile fun b => !isBreakByte b).reverse
  (bytes.take (bytes.length - tail.length), tail)

/-- The text of bytes, with control sequences left out. -/
def readText (bytes : List UInt8) : List Char := strip (decodeLossy bytes)

/-- Whether a line without a break at its end is already finished. -/
def isFinished (b : Inbox) (line : String) : Bool :=
  (b.awaitingCue && isPasswordCue line b.passwordCue) ||
    (endsLikePrompt line && isPromptLine line b.user b.superuser)

/-- Handle what stands after the last line break, if it is finished. -/
def handleTail (width : Nat) (b : Inbox) : Inbox × List Activity :=
  if b.pending.isEmpty then (b, [])
  else
    let tail := trim (readText b.pending)
    if b.isFinished (String.ofList tail) then { b with pending := [] }.handleLine width tail
    else (b, [])

/-- Take in one chunk of the current connection. -/
def takeIn (width : Nat) (b : Inbox) (bytes : List UInt8) : Inbox × List Activity :=
  let (complete, rest) := cutAtLastBreak (b.pending ++ bytes)
  let (b, first) := { b with pending := rest }.handleLines width (splitBreaks (readText complete))
  let (b, last) := b.handleTail width
  (b, first ++ last)

/-- Receive a chunk; one that is not of the current generation changes nothing. -/
def receive (width generation : Nat) (bytes : List UInt8) (b : Inbox) : Inbox × List Activity :=
  if b.generation = generation then b.takeIn width bytes else (b, [])

/-- Record that the stream has failed; one failure that is not of the current generation changes
nothing. -/
def fail (generation : Nat) (cause : Failure) (b : Inbox) : Inbox × List Activity :=
  if b.generation = generation then
    ({ b with streamError := some cause.message },
      [.broke cause, .shown (.line cause.message)])
  else (b, [])

/-! ## Stages of a session -/

/-- The inbox of a session that begins anew without a connection. -/
def cleared (b : Inbox) : Inbox := { generation := b.generation + 1 }

/-- The inbox of an attempt to connect; fixed-row mode stays. -/
def connecting (b : Inbox) (user superuser cue : String) : Inbox :=
  { generation := b.generation + 1, phase := .connecting, user, superuser, passwordCue := cue,
    redraw := b.redraw }

/-- The inbox when a line is about to be sent; `privileged` lines wait for a cue. -/
def sending (b : Inbox) (text : String) (privileged : Bool) : Inbox :=
  { b with
    queue := []
    completed := []
    promptSeen := false
    cueSeen := false
    awaitingCue := privileged
    lastSent := some text
    phase := .awaitingPrompt
    redraw := { b.redraw with nextRow := rowBelow b.redraw.anchor } }

end Inbox

end ScriptedShell.Remote
