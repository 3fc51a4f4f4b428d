/-
# Copying through a program

The program that copies files asks for the password on its terminal and shows its progress there.
Each read of its output is cut into lines: the first request for the password is answered, a second
one ends the copy, percentages are reported, and the last other line says what went wrong when the
program fails.
-/
import ScriptedShell.Remote.Login
import ScriptedShell.Remote.TransferSpec

namespace ScriptedShell.Remote

open Text Terminal

/-! ## The command line of the program -/

/-- How a path on a remote host is named. -/
def remoteOperand (endpoint : Endpoint) (path : String) : String :=
  endpoint.destination ++ ":" ++ path

/-- The arguments that copy a file in a direction. -/
def copyArguments (s : RemoteSettings) (spec : TransferSpec) : List String :=
  let remote := remoteOperand spec.endpoint spec.remotePath
  ["-P", toString spec.endpoint.port] ++ connectionOptions ++ s.extraArguments ++
    match spec.direction with
    | .upload => [spec.localPath, remote]
    | .download => [remote, spec.localPath]

/-! ## Percentages -/

/-- The most digits that a percentage has. -/
def maxPercentDigits : Nat := 3

/-- The largest percentage that is reported. -/
def maxPercent : Nat := 255

/-- The digits before each percent sign of a line, where `seen` are the characters before, last one
first; at most three digits count, and a sign without digits before it is passed over. -/
def percentDigits (seen : List Char) : List Char → List (List Char)
  | [] => []
  | c :: cs =>
    if c = '%' then
      match (seen.takeWhile isDecimalDigit).take maxPercentDigits with
      | [] => percentDigits [] cs
      | digits => digits.reverse :: percentDigits [] cs
    else percentDigits (c :: seen) cs

/-- The percentages of a line, in order. -/
def percentagesOf (line : List Char) : List Nat :=
  (percentDigits [] line).filterMap (boundedNumber maxPercent)

/-! ## Reading the output -/

/-- What is done while a copy is watched. -/
inductive CopyAct where
  /-- A text is typed at the program. -/
  | typed (text : String)
  /-- A percentage is reported. -/
  | reported (percent : Nat)
  /-- The program is killed. -/
  | killed
  deriving Repr, DecidableEq

namespace CopyAct

/-- The text that is typed, if one is. -/
def typed? : CopyAct → Option String
  | typed text => some text
  | _ => none

/-- The percentage that is reported, if one is. -/
def reported? : CopyAct → Option Nat
  | reported percent => some percent
  | _ => none

end CopyAct

/-- What has been seen of a copy, and done at it. -/
structure CopyWatch where
  cue : String
  /-- What is typed when the password is asked for. -/
  password : String
  /-- Whether the password has been typed. -/
  answered : Bool := false
  /-- Whether it has been asked for a second time. -/
  rejected : Bool := false
  /-- What has been done, in order. -/
  acts : List CopyAct := []
  /-- The last line that is no request for the password. -/
  lastLine : List Char := []
  deriving Repr, DecidableEq

namespace CopyWatch

/-- The watch over a copy that begins. -/
def start (s : RemoteSettings) (endpoint : Endpoint) : CopyWatch :=
  { cue := s.passwordCue, password := Login.typedPassword endpoint }

/-- Type the password. -/
def answer (w : CopyWatch) : CopyWatch :=
  { w with answered := true, acts := w.acts ++ [.typed w.password] }

/-- Kill the program, which asks again. -/
def reject (w : CopyWatch) : CopyWatch :=
  { w with rejected := true, acts := w.acts ++ [.killed] }

/-- Report the percentages of a line. -/
def report (w : CopyWatch) (text : List Char) : CopyWatch :=
  { w with acts := w.acts ++ (percentagesOf text).map .reported, lastLine := text }

/-- Look at a line; after a second request for the password nothing counts. -/
def line (w : CopyWatch) (text : List Char) : CopyWatch :=
  if w.rejected then w
  else if isPasswordCue (String.ofList text) w.cue then
    if w.answered then w.reject else w.answer
  else w.report text

/-- The lines of a read: blanks around them do not count, and a blank line is none. -/
def linesOf (bytes : List UInt8) : List (List Char) :=
  ((splitBreaks (strip (decodeLossy bytes))).map trim).filter fun l => !l.isEmpty

/-- Look at a read. -/
def read (w : CopyWatch) (bytes : List UInt8) : CopyWatch := (linesOf bytes).foldl line w

/-- Look at reads, one after the other. -/
def readAll (w : CopyWatch) (reads : List (List UInt8)) : CopyWatch := reads.foldl read w

/-- How the copy of a path ends, when the program ends with or without success. -/
def outcome (w : CopyWatch) (program path : String) (succeeded : Bool) : Option Failure :=
  if w.rejected then some (.transferFailed path "password rejected")
  else if succeeded then none
  else if w.lastLine.isEmpty then
    some (.transferFailed path (program ++ " exited with an error"))
  else some (.transferFailed path (String.ofList w.lastLine))

end CopyWatch

/-! ## The whole copy -/

/-- The path that a failed copy names: the one that it reads or writes first. -/
def TransferSpec.namedPath (spec : TransferSpec) : String :=
  match spec.direction with
  | .upload => spec.localPath
  | .download => spec.remotePath

/-- What comes of a copy. -/
structure CopyReport where
  /-- What is done while the program runs, in order. -/
  acts : List CopyAct
  failure : Option Failure
  deriving Repr, DecidableEq

namespace CopyReport

/-- What is typed at the program. -/
def typed (report : CopyReport) : List String := report.acts.filterMap CopyAct.typed?

/-- The percentages reported. -/
def percentages (report : CopyReport) : List Nat := report.acts.filterMap CopyAct.reported?

/-- The report of a copy whose percentages nobody is told. -/
def untold (report : CopyReport) : CopyReport :=
  { report with acts := report.acts.filter fun act => act.reported?.isNone }

end CopyReport

/-- Run the program, which prints the reads given and then ends, for a path to be named when it
fails. -/
def runCopyProgram (s : RemoteSettings) (endpoint : Endpoint) (path : String)
    (reads : List (List UInt8)) (succeeded : Bool) : CopyReport :=
  let w := (CopyWatch.start s endpoint).readAll reads
  { acts := w.acts, failure := w.outcome s.copyProgram path succeeded }

/-- Copy a file by the program; the percentages of downloads are told nobody. -/
def runCopy (s : RemoteSettings) (spec : TransferSpec) (reads : List (List UInt8))
    (succeeded : Bool) : CopyReport :=
  let report := runCopyProgram s spec.endpoint spec.namedPath reads succeeded
  match spec.direction with
  | .upload => report
  | .download => report.untold

end ScriptedShell.Remote
