/-
# Scripted hosts

A host that plays from a script: what it emits when a connection is opened and what it replies to
each line written.  A play has a first burst, emitted during the call, and later bursts, each of
which is due a fixed time after the one before it and arrives while the session waits.  Time passes
in waits only.
-/
import ScriptedShell.Remote.Host
import ScriptedShell.Text.Blank

namespace ScriptedShell.Remote

/-- Chunks of data, and perhaps a failure of the stream after them. -/
structure Burst where
  chunks : List (List UInt8) := []
  error : Option String := none
  deriving Repr, DecidableEq

/-- The deliveries of a burst through a connection. -/
def Burst.deliveries (b : Burst) (connection : Nat) : List Delivery :=
  b.chunks.map (fun bytes => ⟨connection, .data bytes⟩) ++
    b.error.toList.map fun reason => ⟨connection, .broken (.streamClosed reason)⟩

/-- What a host emits at once and what it emits later. -/
structure Play where
  now : Burst := {}
  later : List Burst := []
  deriving Repr, DecidableEq

/-- What happens when a connection is asked for. -/
structure Opening where
  /-- Why the connection is refused, if it is. -/
  refusal : Option String := none
  play : Play := {}
  deriving Repr, DecidableEq

/-- What happens when a line is written. -/
structure Response where
  line : String
  /-- Whether the response serves one time only. -/
  once : Bool := false
  writeError : Option String := none
  flushError : Option String := none
  play : Play := {}
  deriving Repr, DecidableEq

/-- A burst still to come, with the time at which it is due and its connection. -/
structure Due where
  time : Nat
  connection : Nat
  burst : Burst
  deriving Repr, DecidableEq

/-- Put a burst among others, after those that are due no later. -/
def Due.insert (d : Due) : List Due → List Due
  | [] => [d]
  | e :: rest => if e.time ≤ d.time then e :: d.insert rest else d :: e :: rest

/-- The milliseconds between the bursts of a play. -/
def burstInterval : Nat := 80

/-- A scripted host at some time. -/
structure HostScript where
  /-- What happens when connections are asked for, the last one repeating. -/
  openings : List Opening := []
  responses : List Response := []
  /-- The user of each connection asked for. -/
  users : List String := []
  /-- Connections whose next flush fails, and why. -/
  flushErrors : List (Nat × String) := []
  /-- The time, in milliseconds. -/
  clock : Nat := 0
  /-- Bursts still to come, in the order of the times at which they are due. -/
  later : List Due := []
  deriving Repr, DecidableEq

namespace HostScript

/-- The prompt of the scripted remote shell. -/
def promptOf (user : String) : String := user ++ "@box:~$ "

/-- One chunk of text, emitted at once. -/
def playText (chunks : List String) : Play := ⟨⟨chunks.map fun t => t.toUTF8.toList, none⟩, []⟩

/-- What happens when the connection with this number is asked for. -/
def openingOf (h : HostScript) (connection : Nat) (user : String) : Opening :=
  match h.openings[connection]?.or h.openings.getLast? with
  | some opening => opening
  | none => { play := playText ["Welcome to box\r\n", promptOf user] }

/-- Emit a play through a connection: its first burst at once, the others later. -/
def emit (h : HostScript) (connection : Nat) (play : Play) : List Delivery × HostScript :=
  let due := play.later.mapIdx fun i burst =>
    Due.mk (h.clock + (i + 1) * burstInterval) connection burst
  (play.now.deliveries connection,
    { h with later := due.foldl (fun later d => d.insert later) h.later })

/-- Answer a call for a connection. -/
def answerOpen (h : HostScript) (connection : Nat) (endpoint : Endpoint) : Reply HostScript :=
  let h := { h with users := h.users ++ [endpoint.user] }
  let opening := h.openingOf connection endpoint.user
  match opening.refusal with
  | some reason => { failure := some (.connectFailed endpoint.host reason), world := h }
  | none => let (deliveries, h) := h.emit connection opening.play; { deliveries, world := h }

/-- A line as it was typed, without the carriage return at its end. -/
def typedLine (text : String) : String :=
  match text.toList.reverse with
  | '\r' :: rest => String.ofList rest.reverse
  | _ => text

/-- The first response to a line, and the responses that are left. -/
def takeResponse (line : String) : List Response → Option (Response × List Response)
  | [] => none
  | r :: rest =>
    if r.line = line then some (r, if r.once then rest else r :: rest)
    else (takeResponse line rest).map fun (found, others) => (found, r :: others)

/-- Answer a line that is written. -/
def answerWrite (h : HostScript) (connection : Nat) (text : String) : Reply HostScript :=
  let line := typedLine text
  match takeResponse line h.responses with
  | some (response, responses) =>
    let h := { h with responses }
    match response.writeError with
    | some reason => { failure := some (.writeFailed reason), world := h }
    | none =>
      let (deliveries, h) := h.emit connection response.play
      let failures := response.flushError.toList.map fun reason => (connection, reason)
      { deliveries, world := { h with flushErrors := failures ++ h.flushErrors } }
  | none =>
    let (deliveries, h) :=
      h.emit connection (playText [line ++ "\r\n" ++ promptOf (h.users[connection]?.getD "")])
    { deliveries, world := h }

/-- Answer a flush. -/
def answerFlush (h : HostScript) (connection : Nat) : Reply HostScript :=
  match h.flushErrors.lookup connection with
  | some reason =>
    { failure := some (.writeFailed reason),
      world := { h with flushErrors := h.flushErrors.filter fun (c, _) => c != connection } }
  | none => { world := h }

/-- What arrives of a list of bursts before a wait gives up, which it does at the time `stop` if
that is given. -/
def arrivalsUntil (h : HostScript) (stop : Option Nat) : List Due → Arrivals HostScript
  | [] => .nothing { h with later := [], clock := stop.getD h.clock }
  | d :: rest =>
    if stop.all fun time => d.time < time then
      .batch (d.burst.deliveries d.connection)
        { h with later := rest, clock := max h.clock d.time } (h.arrivalsUntil stop rest)
    else .nothing { h with later := d :: rest, clock := stop.getD h.clock }

/-- What arrives during a wait. -/
def arrivals (h : HostScript) (timeout : Option Duration) : Arrivals HostScript :=
  h.arrivalsUntil (timeout.map fun t => h.clock + t.milliseconds) h.later

end HostScript

/-- Change the world that goes with an answer. -/
def Reply.mapWorld (f : σ → τ) (r : Reply σ) : Reply τ := ⟨r.failure, r.deliveries, f r.world⟩

/-- Change the worlds that go with arrivals. -/
def Arrivals.mapWorld (f : σ → τ) : Arrivals σ → Arrivals τ
  | .nothing world => .nothing (f world)
  | .batch deliveries world more => .batch deliveries (f world) (more.mapWorld f)

/-- The scripted host whose script is a part of the world. -/
def scriptedHost (script : σ → HostScript) (put : σ → HostScript → σ) : Host σ where
  openShell connection endpoint _ world :=
    ((script world).answerOpen connection endpoint).mapWorld (put world)
  write connection text world := ((script world).answerWrite connection text).mapWorld (put world)
  flush connection world := ((script world).answerFlush connection).mapWorld (put world)
  close _ world := { world }
  await timeout world := ((script world).arrivals timeout).mapWorld (put world)
  pause _ world := ([], world)

end ScriptedShell.Remote
