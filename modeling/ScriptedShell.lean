import ScriptedShell.Main
import ScriptedShell.Proofs.App.Arguments
import ScriptedShell.Proofs.Command.Grouping
import ScriptedShell.Proofs.Command.Masking
import ScriptedShell.Proofs.Remote.Answer
import ScriptedShell.Proofs.Remote.Attempts
import ScriptedShell.Proofs.Remote.Awaiting
import ScriptedShell.Proofs.Remote.Channels
import ScriptedShell.Proofs.Remote.Chunks
import ScriptedShell.Proofs.Remote.CopyRuns
import ScriptedShell.Proofs.Remote.CutRequests
import ScriptedShell.Proofs.Remote.Downloads
import ScriptedShell.Proofs.Remote.Echo
import ScriptedShell.Proofs.Remote.Endpoints
import ScriptedShell.Proofs.Remote.Failures
import ScriptedShell.Proofs.Remote.Injection
import ScriptedShell.Proofs.Remote.Lifecycle
import ScriptedShell.Proofs.Remote.Logins
import ScriptedShell.Proofs.Remote.Output
import ScriptedShell.Proofs.Remote.Progress
import ScriptedShell.Proofs.Remote.Screen
import ScriptedShell.Proofs.Remote.Stale
import ScriptedShell.Proofs.Remote.TransferLines
import ScriptedShell.Proofs.Run.Imports
import ScriptedShell.Proofs.Run.Passing
import ScriptedShell.Proofs.Run.Requirements
import ScriptedShell.Proofs.Run.Returning
import ScriptedShell.Proofs.Run.Secrecy
import ScriptedShell.Proofs.Run.Stored
import ScriptedShell.Proofs.Run.Suppression
import ScriptedShell.Proofs.Settings.Saving
import ScriptedShell.Proofs.Terminal.Stripping
import ScriptedShell.Proofs.Variable.Histories
import ScriptedShell.Proofs.Variable.Idempotence
import ScriptedShell.Proofs.Variable.Layers
import ScriptedShell.Proofs.Variable.Placeholders
import ScriptedShell.Proofs.Variable.Reparsing
import ScriptedShell.Remote.Copy
import ScriptedShell.Run.Scene
