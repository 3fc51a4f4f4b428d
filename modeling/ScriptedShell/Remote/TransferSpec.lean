/-
# Transfer lines

A line that copies a file names two places.  The one with a colon is remote, unless the colon
belongs to a drive letter; the first one is where the file goes.
-/
import ScriptedShell.Remote.Endpoint

namespace ScriptedShell.Remote

open Text Command

/-- Which way a file goes. -/
inductive Direction where
  | upload
  | download
  deriving Repr, DecidableEq

/-- A transfer as a line asks for it. -/
structure TransferSpec where
  direction : Direction
  endpoint : Endpoint
  localPath : String
  remotePath : String
  deriving Repr, DecidableEq

/-- Whether a path begins with a drive letter, a colon and a slash of either kind. -/
def hasDriveLetter : List Char → Bool
  | letter :: ':' :: slash :: _ => letter.isAlpha && (slash = '\\' || slash = '/')
  | _ => false

/-- Whether an argument names a remote place. -/
def isRemotePlace (argument : String) : Bool :=
  argument.toList.elem ':' && !hasDriveLetter argument.toList

/-- The remote and the local argument among the first two, and the way the file goes. -/
def placesOf (arguments : List String) : Except SpecFault (Direction × String × String) :=
  match arguments.take 2 with
  | first :: rest =>
    if isRemotePlace first then
      match rest.find? fun a => !isRemotePlace a with
      | some localPath => .ok (.upload, first, localPath)
      | none => .error .missingLocalPath
    else
      match rest.find? isRemotePlace with
      | some remote => .ok (.download, remote, first)
      | none => .error .missingRemotePath
  | [] => .error .missingRemotePath

/-- The address and the path of a remote argument, cut at its first colon. -/
def splitRemote (argument : String) : Except SpecFault (String × String) :=
  match cutFirst ':' argument.toList with
  | some (address, path) =>
    if (afterLast '@' address).isEmpty then .error .missingTransferHost
    else if path.isEmpty then .error .missingRemotePath
    else .ok (String.ofList address, String.ofList path)
  | none => .error .missingRemotePath

/-- The transfer on a line. -/
def TransferSpec.ofLine (settings : RemoteSettings) (line : Line) :
    Except SpecFault TransferSpec := do
  let (direction, remote, localPath) ← placesOf line.positionals
  let (address, remotePath) ← splitRemote remote
  let password ← passwordOf line
  let port ← portOf line settings.defaultPort
  return ⟨direction, .ofAddress address password port settings.defaultUser, localPath, remotePath⟩

end ScriptedShell.Remote
