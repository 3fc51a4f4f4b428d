/-
# Validity of settings

The checks that settings must pass, in the order in which they are made; the first one that fails
is reported.
-/
import ScriptedShell.Failure
import ScriptedShell.Settings.Basic

namespace ScriptedShell

open Text

/-- A check of one field: what is said when it fails, and whether it holds. -/
structure Check where
  field : String
  reason : String
  holds : Settings → Bool

namespace Settings

/-- The most seconds that a connection may wait for its first prompt. -/
def maxConnectTimeout : Nat := 600

/-- All checks, in order. -/
def checks : List Check :=
  [⟨"local.shell", "Shell path cannot be empty", fun s => s.shell.program != ""⟩,
    ⟨"remote.default_user", "Default user cannot be empty",
      fun s => !isBlankText s.remote.defaultUser⟩,
    ⟨"remote.default_port", "Port must be greater than 0", fun s => 0 < s.remote.defaultPort⟩,
    ⟨"remote.connect_attempts", "At least one connection attempt is required",
      fun s => 0 < s.remote.connectAttempts⟩,
    ⟨"remote.connect_timeout_secs", "Connect timeout must be between 1 and 600 seconds",
      fun s => 0 < s.remote.connectTimeoutSeconds &&
        s.remote.connectTimeoutSeconds ≤ maxConnectTimeout⟩,
    ⟨"remote.sudo_marker", "Privileged command marker cannot be empty",
      fun s => s.remote.sudoMarker != ""⟩,
    ⟨"remote.password_cue", "Password cue cannot be empty", fun s => s.remote.passwordCue != ""⟩,
    ⟨"display.rows", "Rows must be greater than 0", fun s => 0 < s.display.rows⟩,
    ⟨"display.redraw_anchor_row", "Rows are numbered from 1", fun s => 0 < s.display.anchorRow⟩]

/-- Whether settings pass all checks. -/
def isValid (s : Settings) : Bool := checks.all fun c => c.holds s

/-- The settings, if they pass all checks, or else what the first check that fails says. -/
def validate (s : Settings) : Except Failure Settings :=
  match checks.find? fun c => !c.holds s with
  | some c => .error (.settingsInvalid c.field c.reason)
  | none => .ok s

end Settings

end ScriptedShell
