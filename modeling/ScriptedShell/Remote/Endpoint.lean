/-
# Endpoints

Where and as whom to connect, and how an endpoint is read from the arguments of a line.
-/
import ScriptedShell.Command.Line
import ScriptedShell.Failure
import ScriptedShell.Settings.Basic
import ScriptedShell.Text.Digits
import ScriptedShell.Text.Quoted

namespace ScriptedShell.Remote

open Text Command

/-- A host with a port, a user and the password of that user. -/
structure Endpoint where
  host : String
  port : Nat
  user : String
  password : String
  deriving Repr, DecidableEq

namespace Endpoint

/-- The endpoint of an address: the text before the first `@` is the user, unless it is empty. -/
def ofAddress (address password : String) (port : Nat) (defaultUser : String) : Endpoint :=
  match cutFirst '@' address.toList with
  | some ([], host) => ⟨String.ofList host, port, defaultUser, password⟩
  | some (user, host) => ⟨String.ofList host, port, String.ofList user, password⟩
  | none => ⟨address, port, defaultUser, password⟩

/-- The user and the host, as programs are told them. -/
def destination (e : Endpoint) : String := e.user ++ "@" ++ e.host

/-- The user, the host and the port. -/
def text (e : Endpoint) : String := e.destination ++ ":" ++ toString e.port

/-- All fields of an endpoint, with something else in place of the password. -/
def redacted (e : Endpoint) : String :=
  "Endpoint \x7b host: " ++ quoted e.host ++ ", port: " ++ toString e.port ++ ", user: " ++
    quoted e.user ++ ", password: \"<redacted>\" \x7d"

end Endpoint

/-- The flag before a password. -/
def passwordFlag : String := "-#p"

/-- The flag before a port. -/
def portFlag : String := "-p"

/-- The largest port. -/
def maxPort : Nat := 65535

/-- The port that a line names, or the default one. -/
def portOf (line : Line) (defaultPort : Nat) : Except SpecFault Nat :=
  match line.valueOf? portFlag with
  | none => .ok defaultPort
  | some text =>
    match boundedNumber maxPort text.toList with
    | some (port + 1) => .ok (port + 1)
    | _ => .error (.invalidPort text)

/-- The password that a line carries. -/
def passwordOf (line : Line) : Except SpecFault String :=
  match line.valueOf? passwordFlag with
  | some password => .ok password
  | none => .error .missingPassword

/-- The address on a line that opens a session: its first argument, when that is a word without a
dash that names a host. -/
def addressOf (line : Line) : Except SpecFault String :=
  match line.arguments with
  | part :: _ =>
    if part.key?.isNone && !startsWith part.value "-" && !(afterLast '@' part.value.toList).isEmpty
    then .ok part.value
    else .error .missingHost
  | [] => .error .missingHost

/-- The endpoint on a line that opens a session. -/
def Endpoint.ofLine (settings : RemoteSettings) (line : Line) : Except SpecFault Endpoint := do
  let address ← addressOf line
  let password ← passwordOf line
  let port ← portOf line settings.defaultPort
  return .ofAddress address password port settings.defaultUser

end ScriptedShell.Remote
