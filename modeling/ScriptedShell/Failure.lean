/-
# Failures

Everything that can go wrong, by cause, and the one place that words each cause.
-/
import ScriptedShell.Duration

namespace ScriptedShell

/-- What is wrong with the arguments of a line that names a remote host. -/
inductive SpecFault where
  | missingHost
  | missingPassword
  | missingTransferHost
  | invalidPort (text : String)
  | missingLocalPath
  | missingRemotePath
  deriving Repr, DecidableEq

/-- The wording of a fault in the arguments. -/
def SpecFault.message : SpecFault → String
  | missingHost => "Ssh Host is required"
  | missingPassword => "Password is required (-#p)"
  | missingTransferHost => "Scp Host is required"
  | invalidPort text => "Invalid port: " ++ text
  | missingLocalPath => "Local path is required"
  | missingRemotePath => "Remote path is required"

/-- The formats of settings files. -/
inductive FileFormat where
  | toml
  | json
  deriving Repr, DecidableEq

/-- The name of a format in messages. -/
def FileFormat.title : FileFormat → String
  | toml => "TOML"
  | json => "JSON"

/-- A cause of failure. -/
inductive Failure where
  | noTerminal (program reason : String)
  | notSpawned (program reason : String)
  | connectFailed (host reason : String)
  | retriesExhausted (host : String) (attempts : Nat)
  | connectTimeout (host : String) (after : Duration)
  | writeFailed (reason : String)
  | streamClosed (reason : String)
  | notConnected
  | alreadyConnected (host : String)
  | transferFailed (path reason : String)
  | invalidSpec (fault : SpecFault)
  | notExecuted (script reason : String)
  | variableMissing (key : String)
  | scriptNotFound (path : String)
  | settingsUnreadable (path reason : String)
  | settingsNotFound
  | settingsInvalid (field reason : String)
  | settingsNotSerialized (format reason : String)
  | settingsMalformed (format reason : String)
  | fileAccess (reason : String)
  | serialization (reason : String)
  | tomlSyntax (reason : String)
  | patternSyntax (reason : String)
  | other (reason : String)
  deriving Repr, DecidableEq

namespace Failure

/-- The wording of a failure. -/
def message : Failure → String
  | noTerminal program reason => "Failed to create PTY for '" ++ program ++ "': " ++ reason
  | notSpawned program reason => "Failed to spawn '" ++ program ++ "': " ++ reason
  | connectFailed host reason => "Connection to '" ++ host ++ "' failed: " ++ reason
  | retriesExhausted host attempts =>
    "Connection to '" ++ host ++ "' failed after " ++ toString attempts ++ " attempts"
  | connectTimeout host after => "Connection to '" ++ host ++ "' timed out after " ++ after.text
  | writeFailed reason => "Failed to write to remote stream: " ++ reason
  | streamClosed reason => "Remote stream closed: " ++ reason
  | notConnected => "No remote session is open"
  | alreadyConnected host => "A remote session to '" ++ host ++ "' is already open"
  | transferFailed path reason => "Transfer of '" ++ path ++ "' failed: " ++ reason
  | invalidSpec fault => fault.message
  | notExecuted script reason => "Failed to execute '" ++ script ++ "': " ++ reason
  | variableMissing key => "Variable " ++ key ++ " is required"
  | scriptNotFound path => "File「" ++ path ++ "」is not found"
  | settingsUnreadable path reason => "Failed to load config from '" ++ path ++ "': " ++ reason
  | settingsNotFound => "Configuration file not found"
  | settingsInvalid field reason =>
    "Configuration validation failed for '" ++ field ++ "': " ++ reason
  | settingsNotSerialized format reason =>
    "Failed to serialize config as " ++ format ++ ": " ++ reason
  | settingsMalformed format reason => "Failed to parse " ++ format ++ " config: " ++ reason
  | fileAccess reason => "I/O error: " ++ reason
  | serialization reason => "Serialization error: " ++ reason
  | tomlSyntax reason => "TOML parsing error: " ++ reason
  | patternSyntax reason => "Regex compilation error: " ++ reason
  | other reason => "Error: " ++ reason

end Failure

end ScriptedShell
