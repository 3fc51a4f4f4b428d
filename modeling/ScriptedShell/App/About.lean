/-
# About the program

The texts that the program prints about itself.
-/

namespace ScriptedShell.App

/-- The name that the program is started by. -/
def programName : String := "shellrunner"

/-- The version of the program. -/
def version : String := "0.3.0"

/-- The line that tells the version. -/
def versionLine : String := "ShellRunner v" ++ version ++ "\n"

/-- How the program is used. -/
def helpLines : List String :=
  ["ShellRunner - scriptable command runner for local shells and SSH sessions",
    "",
    "USAGE:",
    "    shellrunner [OPTIONS]                      Interactive mode",
    "    shellrunner [OPTIONS] <FILE>... [-@key value]...",
    "",
    "OPTIONS:",
    "    -c, --config <PATH>    Path to configuration file",
    "    -d, --debug            Enable debug logging",
    "    -?, --help             Print this help message",
    "    -V, --version          Print version information",
    "",
    "CONFIGURATION:",
    "    Configuration is read from the first of:",
    "    1. Path specified with --config",
    "    2. <config dir>/shellrunner/config.toml (or .json)",
    "    3. $XDG_CONFIG_HOME/shellrunner/config.toml",
    "    4. ~/.shellrunner.toml",
    "    5. ./.shellrunner.toml",
    "    6. Built-in defaults",
    "",
    "ENVIRONMENT:",
    "    SHELLRUNNER_DEBUG      Enable debug logging (1 or true)",
    "    RUST_LOG               Set logging level (error, warn, info, debug, trace)"]

/-- The help text, each line ended by a line feed. -/
def helpText : String := String.join (helpLines.map fun line => line ++ "\n")

end ScriptedShell.App
