/-
# Activities

What can be observed of a run, in one chronological list: what is shown on the console, what is
heard from a remote shell, what is asked of the host, of the local shell and of the file copier,
and which lines are dispatched.
-/
import ScriptedShell.Remote.Endpoint
import ScriptedShell.Terminal.Console

namespace ScriptedShell

open Remote Command

/-- What a line from a remote shell is taken for. -/
inductive LineKind where
  /-- The line that was sent, coming back. -/
  | echo
  /-- The request for the password that a privileged command was waiting for. -/
  | cue
  /-- The shell's prompt. -/
  | prompt
  /-- Anything else. -/
  | output
  deriving Repr, DecidableEq

/-- One observable step of a run.  Connections to hosts are numbered in the order of opening. -/
inductive Activity where
  /-- The console is written to. -/
  | shown (entry : Terminal.Entry)
  /-- A line of a remote shell has come in. -/
  | heard (line : String) (kind : LineKind)
  /-- The stream from a remote shell has failed. -/
  | broke (cause : Failure)
  /-- A line is about to be sent to the remote shell. -/
  | sending (text : String)
  /-- A connection is asked for. -/
  | opening (connection : Nat) (endpoint : Endpoint) (timeout : Duration)
  /-- A connection has been granted. -/
  | opened (connection : Nat)
  | wrote (connection : Nat) (text : String)
  | flushed (connection : Nat)
  | closed (connection : Nat)
  /-- A script is handed to the local shell. -/
  | invoked (script : String)
  | uploaded (endpoint : Endpoint) (localPath remotePath : String)
  | downloaded (endpoint : Endpoint) (remotePath localPath : String)
  /-- A file is about to be run, with the variables of the line that runs it. -/
  | started (file : String) (store : Variable.Store)
  /-- A line is dispatched. -/
  | dispatched (line : Line)
  deriving Repr, DecidableEq

/-- What an activity shows on the console. -/
def Activity.entry? : Activity → Option Terminal.Entry
  | .shown e => some e
  | _ => none

/-- What a list of activities shows on the console. -/
def shownEntries (trace : List Activity) : List Terminal.Entry := trace.filterMap Activity.entry?

end ScriptedShell
