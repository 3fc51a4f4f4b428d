/-
# Remote sessions

A session opens a connection to a host, with several attempts, sends lines and collects their
output until the prompt shows up again, answers the request for the password that a privileged
command makes, and closes the connection.  All of it is a function of the host.
-/
import ScriptedShell.Remote.Host
import ScriptedShell.Remote.Inbox

namespace ScriptedShell.Remote

open Text Terminal

/-- What a session is set up with. -/
structure Setup where
  settings : RemoteSettings
  /-- The anchor row when none is given. -/
  anchorRow : Nat
  /-- The width of the console. -/
  width : Nat
  deriving Repr, DecidableEq

/-- A session, with the world that its host acts on and the trace of what has happened. -/
structure Session (σ : Type) where
  inbox : Inbox := {}
  /-- The generation of each connection asked for, in order. -/
  handlers : List Nat := []
  /-- The connection that the session holds. -/
  channel : Option Nat := none
  endpoint : Option Endpoint := none
  trace : List Activity := []
  world : σ

/-- How sending a line ends. -/
inductive Sent where
  /-- The prompt came back after this output. -/
  | output (lines : List String)
  | failed (cause : Failure)
  /-- Nothing arrives any more, and neither the prompt nor a failure of the stream has come. -/
  | unanswered
  deriving Repr, DecidableEq

/-- How a wait for the prompt ends. -/
inductive Waited where
  | ready
  | closed (reason : String)
  | expired
  deriving Repr, DecidableEq

namespace Session

variable {σ : Type}

/-- Whether the session holds a connection. -/
def isConnected (s : Session σ) : Bool := s.channel.isSome

/-- Add activities to the trace. -/
def note (s : Session σ) (activities : List Activity) : Session σ :=
  { s with trace := s.trace ++ activities }

/-- Write an entry to the console. -/
def display (s : Session σ) (entry : Entry) : Session σ := s.note [.shown entry]

/-- Write a line to the console. -/
def say (s : Session σ) (text : String) : Session σ := s.display (.line text)

/-! ## Deliveries -/

/-- Take in a signal of a connection with the given generation. -/
def accept (s : Session σ) (width generation : Nat) (signal : Signal) : Session σ :=
  let (inbox, activities) := match signal with
    | .data bytes => s.inbox.receive width generation bytes
    | .broken cause => s.inbox.fail generation cause
  { s with inbox }.note activities

/-- Take in a delivery; one through a connection never asked for changes nothing. -/
def deliver (s : Session σ) (width : Nat) (d : Delivery) : Session σ :=
  match s.handlers[d.connection]? with
  | some generation => s.accept width generation d.signal
  | none => s

/-- Take in deliveries in order. -/
def deliverAll (s : Session σ) (width : Nat) (ds : List Delivery) : Session σ :=
  ds.foldl (fun s d => s.deliver width d) s

/-- The session after the answer to a call. -/
def absorb (s : Session σ) (width : Nat) (r : Reply σ) : Session σ :=
  { s with world := r.world }.deliverAll width r.deliveries

/-- The session after a moment of its own. -/
def pause (s : Session σ) (host : Host σ) (setup : Setup) (m : Moment) : Session σ :=
  let (deliveries, world) := host.pause m s.world
  { s with world }.deliverAll setup.width deliveries

/-! ## Calls -/

/-- Write text to a connection. -/
def writeTo (s : Session σ) (host : Host σ) (setup : Setup) (connection : Nat) (text : String) :
    Option Failure × Session σ :=
  let r := host.write connection text s.world
  (r.failure, (s.note [.wrote connection text]).absorb setup.width r)

/-- Flush a connection. -/
def flush (s : Session σ) (host : Host σ) (setup : Setup) (connection : Nat) :
    Option Failure × Session σ :=
  let r := host.flush connection s.world
  (r.failure, (s.note [.flushed connection]).absorb setup.width r)

/-- Close a connection. -/
def close (s : Session σ) (host : Host σ) (setup : Setup) (connection : Nat) : Session σ :=
  (s.note [.closed connection]).absorb setup.width (host.close connection s.world)

/-- Write a line of input and flush the connection. -/
def enter (s : Session σ) (host : Host σ) (setup : Setup) (connection : Nat) (text : String) :
    Option Failure × Session σ :=
  match s.writeTo host setup connection (text ++ "\r") with
  | (some cause, s) => (some cause, s)
  | (none, s) => s.flush host setup connection

/-! ## Waiting -/

/-- What a wait for the prompt finds when it looks. -/
def promptFound (s : Session σ) : Option (Waited × Session σ) :=
  if s.inbox.promptSeen then
    some (.ready, { s with inbox := { s.inbox with promptSeen := false } })
  else s.inbox.streamError.map fun reason => (.closed reason, s)

/-- Wait for the prompt. -/
def waitForPrompt (s : Session σ) (width : Nat) : Arrivals σ → Waited × Session σ
  | .nothing world => s.promptFound.getD (.expired, { s with world })
  | .batch deliveries world more =>
    match s.promptFound with
    | some found => found
    | none => waitForPrompt ({ s with world }.deliverAll width deliveries) width more

/-- Stop waiting for a request for the password. -/
def giveUpCue (s : Session σ) : Session σ :=
  { s with inbox := { s.inbox with awaitingCue := false } }

/-- What a wait for a request for the password finds when it looks. -/
def cueFound (s : Session σ) : Option (Bool × Session σ) :=
  if s.inbox.cueSeen then some (true, s)
  else if s.inbox.promptSeen || s.inbox.streamError.isSome then some (false, s.giveUpCue)
  else none

/-- Wait for a request for the password; whether one was seen. -/
def waitForCue (s : Session σ) (width : Nat) : Arrivals σ → Bool × Session σ
  | .nothing world => s.cueFound.getD (false, { s with world }.giveUpCue)
  | .batch deliveries world more =>
    match s.cueFound with
    | some found => found
    | none => waitForCue ({ s with world }.deliverAll width deliveries) width more

/-! ## Connecting -/

/-- Begin anew without a connection. -/
def reset (s : Session σ) : Session σ := { s with inbox := s.inbox.cleared }

/-- Make one attempt to connect; whether it succeeded, in which case the session holds the
connection. -/
def attempt (s : Session σ) (host : Host σ) (setup : Setup) (endpoint : Endpoint) :
    Bool × Session σ :=
  let inbox := s.inbox.connecting endpoint.user setup.settings.superuser setup.settings.passwordCue
  let connection := s.handlers.length
  let timeout := setup.settings.connectTimeout
  let s := { s with inbox, handlers := s.handlers ++ [inbox.generation] }
  let r := host.openShell connection endpoint timeout s.world
  let s := (s.note [.opening connection endpoint timeout]).absorb setup.width r
  if r.failure.isSome then (false, s)
  else
    let s := s.note [.opened connection]
    match s.waitForPrompt setup.width (host.await (some timeout) s.world) with
    | (.ready, s) =>
      let s := s.pause host setup .settling
      (true, { s with
        channel := some connection
        endpoint := some endpoint
        inbox := { s.inbox with phase := .idle } })
    | (_, s) => (false, (s.pause host setup .dropping).close host setup connection)

/-- Say that a further attempt is made, by its number; the first one is not announced. -/
def announceAttempt (s : Session σ) (host : Host σ) (setup : Setup) (number : Nat) : Session σ :=
  if number = 1 then s
  else (s.say ("Retry " ++ toString (number - 1) ++ "...")).pause host setup .retrying

/-- Make up to `left` attempts, the first of which has the number `number`. -/
def attempts (host : Host σ) (setup : Setup) (endpoint : Endpoint) :
    Nat → Nat → Session σ → Bool × Session σ
  | 0, _, s => (false, s)
  | left + 1, number, s =>
    match (s.announceAttempt host setup number).attempt host setup endpoint with
    | (true, s) => (true, s)
    | (false, s) => attempts host setup endpoint left (number + 1) s

/-- Open a session, with as many attempts as the settings allow and at least one. -/
def connect (s : Session σ) (host : Host σ) (setup : Setup) (endpoint : Endpoint) :
    Option Failure × Session σ :=
  match s.endpoint with
  | some current => (some (.alreadyConnected current.host), s)
  | none =>
    let limit := max setup.settings.connectAttempts 1
    match attempts host setup endpoint limit 1 s with
    | (true, s) => (none, s.say "Ssh connection success")
    | (false, s) =>
      (some (.retriesExhausted endpoint.host limit),
        s.reset.say ("Retry more than " ++ toString limit ++ " times"))

/-! ## Sending -/

/-- Take the output that stood before the last prompt. -/
def collect (s : Session σ) : List String × Session σ :=
  (s.inbox.completed, { s with inbox := { s.inbox with phase := .idle, completed := [] } })

/-- Wait until the prompt is back, and collect the output. -/
def awaitOutput (s : Session σ) (host : Host σ) (setup : Setup) : Sent × Session σ :=
  match s.waitForPrompt setup.width (host.await none s.world) with
  | (.ready, s) => let (lines, s) := (s.pause host setup .collecting).collect; (.output lines, s)
  | (.closed reason, s) => (.failed (.streamClosed reason), s)
  | (.expired, s) => (.unanswered, s)

/-- Wait for a request for the password, and answer it if it comes. -/
def answerCue (s : Session σ) (host : Host σ) (setup : Setup) (connection : Nat)
    (password : String) : Option Failure × Session σ :=
  match s.waitForCue setup.width (host.await (some setup.settings.cueTimeout) s.world) with
  | (true, s) => (s.pause host setup .answering).enter host setup connection password
  | (false, s) => (none, s.pause host setup .resuming)

/-- Send a line through a connection and wait for its output. -/
def sendThrough (s : Session σ) (host : Host σ) (setup : Setup) (connection : Nat)
    (password text : String) : Sent × Session σ :=
  let privileged := contains text setup.settings.sudoMarker
  let s := { s with inbox := s.inbox.sending text privileged }.note [.sending text]
  match s.enter host setup connection text with
  | (some cause, s) => (.failed cause, s)
  | (none, s) =>
    if privileged then
      match s.answerCue host setup connection password with
      | (some cause, s) => (.failed cause, s)
      | (none, s) => s.awaitOutput host setup
    else s.awaitOutput host setup

/-- Send a line to the remote shell and collect its output.  A privileged command gets the
session's password when the remote shell asks for it. -/
def send (s : Session σ) (host : Host σ) (setup : Setup) (text : String) : Sent × Session σ :=
  match s.endpoint, s.channel with
  | some endpoint, some connection =>
    match s.inbox.streamError with
    | some reason => (.failed (.streamClosed reason), s)
    | none => s.sendThrough host setup connection endpoint.password (trimmed text)
  | _, _ => (.failed .notConnected, s)

/-! ## Fixed-row mode -/

/-- Fixed-row mode with the prompt at a row. -/
def fixedRows (anchor : Nat) : Redraw :=
  { active := true, anchor, nextRow := rowBelow anchor, lastRow := anchor }

/-- Begin fixed-row mode at a row, or at the one set up. -/
def enterRedraw (s : Session σ) (host : Host σ) (setup : Setup) (row : Option Nat) :
    Option Failure × Session σ :=
  if s.isConnected then
    let anchor := max (row.getD setup.anchorRow) 1
    let s := (s.display .clear).pause host setup .drawing
    (none, { s with inbox := { s.inbox with redraw := fixedRows anchor } })
  else (some .notConnected, s)

/-- End fixed-row mode. -/
def exitRedraw (s : Session σ) : Session σ :=
  { s with inbox := { s.inbox with redraw := {} } }

/-! ## Disconnecting -/

/-- Close the session; whether there was one. -/
def disconnect (s : Session σ) (host : Host σ) (setup : Setup) : Bool × Session σ :=
  match s.channel with
  | none => (false, { s with endpoint := none })
  | some connection =>
    let s := { s with channel := none }
    let s := (s.flush host setup connection).2.close host setup connection
    (true, { s with endpoint := none }.reset.say "Ssh connection has been closed")

/-- Let go of a session: its connection is closed without further ado. -/
def release (s : Session σ) (host : Host σ) (setup : Setup) : Session σ :=
  match s.channel with
  | none => s
  | some connection => { s with channel := none }.close host setup connection

end Session

end ScriptedShell.Remote
