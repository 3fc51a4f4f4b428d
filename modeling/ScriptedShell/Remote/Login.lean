/-
# Logging in

The program that opens remote shells asks for the password on its terminal.  Until the first
prompt of the remote shell, its output is watched: the first request for the password is answered,
and a refusal is reported.  All other output is forwarded as it is.
-/
import ScriptedShell.Failure
import ScriptedShell.Remote.Prompt
import ScriptedShell.Settings.Basic
import ScriptedShell.Remote.Endpoint
import ScriptedShell.Remote.Host
import ScriptedShell.Terminal.Escape
import ScriptedShell.Text.Lines
import ScriptedShell.Text.Utf8

namespace ScriptedShell.Remote

open Text Terminal

/-! ## The command line of the program -/

/-- The options that all connections are made with. -/
def connectionOptions : List String :=
  ["-o", "StrictHostKeyChecking=accept-new", "-o", "NumberOfPasswordPrompts=1"]

/-- The arguments that open a remote shell; the program waits for whole seconds, at least one. -/
def shellArguments (s : RemoteSettings) (endpoint : Endpoint) (timeout : Duration) : List String :=
  ["-tt", "-p", toString endpoint.port, "-o",
    "ConnectTimeout=" ++ toString (max 1 timeout.seconds)] ++
    connectionOptions ++ s.extraArguments ++ [endpoint.destination]

/-! ## Watching the output -/

/-- What is done with a chunk of output. -/
inductive LoginStep where
  | forward
  | answerPassword
  | denied
  deriving Repr, DecidableEq

/-- What has been seen of a login. -/
structure LoginWatch where
  user : String
  superuser : String
  cue : String
  answered : Bool := false
  loggedIn : Bool := false
  /-- The text since the last line break, which the next chunk can go on with. -/
  pending : List Char := []
  deriving Repr, DecidableEq

/-- What the program says when the host refuses the password. -/
def refusal : String := "Permission denied"

namespace LoginWatch

/-- The watch over a login to an endpoint. -/
def ofEndpoint (s : RemoteSettings) (endpoint : Endpoint) : LoginWatch :=
  { user := endpoint.user, superuser := s.superuser, cue := s.passwordCue }

/-- Whether a line is a request for the password. -/
def isCue (w : LoginWatch) (line : List Char) : Bool := isPasswordCue (String.ofList line) w.cue

/-- Whether a line is the prompt of the remote shell; a request for the password can look like one
but is none. -/
def isPrompt (w : LoginWatch) (line : List Char) : Bool :=
  !w.isCue line && isPromptLine (String.ofList (trim line)) w.user w.superuser

/-- The text after the last line break. -/
def lastLine (text : List Char) : List Char := ((splitBreaks text).getLast?).getD []

/-- Look at more text before the first prompt. -/
def examine (w : LoginWatch) (text : List Char) : LoginStep × LoginWatch :=
  let pending := w.pending ++ strip text
  let last := lastLine pending
  if !w.answered && w.isCue last then
    (.answerPassword, { w with answered := true, pending := [] })
  else if (splitBreaks pending).any w.isPrompt then
    (.forward, { w with loggedIn := true, pending := [] })
  else (.forward, { w with pending := last })

/-- Look at the text of a chunk: what is done with the chunk, and the watch after it. -/
def observe (w : LoginWatch) (text : List Char) : LoginStep × LoginWatch :=
  if w.loggedIn then (.forward, w)
  else if occursIn refusal.toList text then (.denied, w)
  else w.examine text

end LoginWatch

/-! ## The login -/

/-- What comes of something that happens at the terminal. -/
inductive LoginReaction where
  /-- The chunk goes on to the session. -/
  | forwarded (bytes : List UInt8)
  /-- Text is typed at the program. -/
  | typed (text : String)
  /-- The session is told of a failure, or a call fails. -/
  | failed (cause : Failure)
  deriving Repr, DecidableEq

/-- The failure that a reaction is, if it is one. -/
def LoginReaction.failure? : LoginReaction → Option Failure
  | .failed cause => some cause
  | _ => none

/-- A read of what the program prints, and why typing at the program fails then, if it does. -/
structure LoginRead where
  bytes : List UInt8
  fault? : Option String := none
  deriving Repr, DecidableEq

/-- A login, and the connection after it. -/
structure Login where
  endpoint : Endpoint
  watch : LoginWatch
  /-- Whether the connection has not been closed from this side. -/
  isOpen : Bool := true

namespace Login

/-- A login that begins. -/
def start (s : RemoteSettings) (endpoint : Endpoint) : Login :=
  { endpoint, watch := .ofEndpoint s endpoint }

/-- Whatever is typed ends with a carriage return. -/
def typedPassword (endpoint : Endpoint) : String := endpoint.password ++ "\r"

/-- The program has printed a chunk. -/
def read (l : Login) (bytes : List UInt8) : LoginReaction × Login :=
  let (step, watch) := l.watch.observe (decodeLossy bytes)
  (match step with
    | .forward => .forwarded bytes
    | .answerPassword => .typed (typedPassword l.endpoint)
    | .denied => .failed (.connectFailed l.endpoint.host refusal),
   { l with watch })

/-- What comes of a read; the session is told as well when the password cannot be typed. -/
def deliver (l : Login) (r : LoginRead) : List LoginReaction × Login :=
  let (reaction, l) := l.read r.bytes
  (match reaction, r.fault? with
    | .typed text, some reason => [.typed text, .failed (.writeFailed reason)]
    | _, _ => [reaction],
   l)

/-- What comes of reads, one after the other. -/
def deliverAll : Login → List LoginRead → List (List LoginReaction) × Login
  | l, [] => ([], l)
  | l, r :: rest =>
    let (response, l) := l.deliver r
    let (responses, l) := l.deliverAll rest
    (response :: responses, l)

/-- The program has ended. -/
def ended (l : Login) : LoginReaction :=
  .failed (.streamClosed ("connection to " ++ l.endpoint.host ++ " closed"))

/-- Type text at the program; `fault?` is why the terminal does not take it, if it does not. -/
def write (l : Login) (text : String) (fault? : Option String := none) : LoginReaction :=
  if l.isOpen then
    match fault? with
    | none => .typed text
    | some reason => .failed (.writeFailed reason)
  else .failed .notConnected

/-- Text that is typed goes out at once, and nothing is left that could fail. -/
def flush (_ : Login) : Option Failure := none

/-- Close the connection, which ends the program; closing it again does nothing. -/
def close (l : Login) : Option LoginReaction × Login :=
  if l.isOpen then (some l.ended, { l with isOpen := false }) else (none, l)

end Login

/-- A host whose connections are logins: what is written to them is typed at their programs.  All
else, and what comes in meanwhile, is as it is with another host. -/
def Host.ofLogins {σ : Type} (other : Host σ) (login : Nat → σ → Login)
    (fault? : Nat → String → σ → Option String) : Host σ :=
  { other with
    write := fun c text w =>
      { other.write c text w with
        failure := ((login c w).write text (fault? c text w)).failure? }
    flush := fun c w => { other.flush c w with failure := (login c w).flush } }

end ScriptedShell.Remote
