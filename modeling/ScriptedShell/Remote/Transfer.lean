/-
# Transfers

Carrying out a transfer: the local file is looked up, or taken away before it is replaced, progress
is reported in steps, and the beginning and the end are shown.
-/
import ScriptedShell.Activity
import ScriptedShell.Files.Tree
import ScriptedShell.Remote.Host
import ScriptedShell.Remote.Throttle
import ScriptedShell.Remote.TransferSpec

namespace ScriptedShell.Remote

open Files

/-- What a copier does with a file: the percentages that it reports, why it failed, if it did, what
the host of the session delivers meanwhile, and the world after it. -/
structure Copied (σ : Type) where
  percentages : List Nat := []
  failure : Option Failure := none
  deliveries : List Delivery := []
  world : σ

/-- The programs and files that a transfer uses, acting on worlds of type `σ`. -/
structure Copier (σ : Type) where
  /-- Copy a local file to a remote path. -/
  upload : Endpoint → String → String → σ → Copied σ
  /-- Copy a remote path to a local file. -/
  download : Endpoint → String → String → σ → Copied σ
  /-- Whether a path leads to a file. -/
  isFile : String → σ → Bool
  /-- Take away the file that a path leads to. -/
  removeFile : String → σ → Except FileFault σ

/-- A line written to the console. -/
def shownLine (text : String) : Activity := .shown (.line text)

/-- The lines that report percentages. -/
def progressLines (percentages : List Nat) : List Activity :=
  (Throttle.default.updates percentages).filterMap fun step =>
    step.map fun n => shownLine ("...." ++ toString n ++ "%")

/-- How a transfer ends. -/
structure Transferred (σ : Type) where
  failure : Option Failure := none
  trace : List Activity := []
  /-- What the host of the session has delivered. -/
  deliveries : List Delivery := []
  world : σ

/-- Copy a local file to the remote host. -/
def TransferSpec.upload (spec : TransferSpec) (copier : Copier σ) (path : String) (world : σ) :
    Transferred σ :=
  if copier.isFile path world then
    let copied := copier.upload spec.endpoint path spec.remotePath world
    { failure := copied.failure
      trace := [shownLine ("scp upload file " ++ spec.localPath ++ " start"),
          .uploaded spec.endpoint path spec.remotePath] ++ progressLines copied.percentages ++
        if copied.failure.isNone then
          [shownLine ("scp upload file " ++ spec.localPath ++ " finish")]
        else []
      deliveries := copied.deliveries
      world := copied.world }
  else { failure := some (.transferFailed path "local file not found"), world }

/-- The world without the local file that a transfer is about to replace. -/
def clearTarget (copier : Copier σ) (path : String) (world : σ) : Except FileFault σ :=
  if copier.isFile path world then copier.removeFile path world else .ok world

/-- Copy a remote path to a local file, which is replaced if it is there. -/
def TransferSpec.download (spec : TransferSpec) (copier : Copier σ) (path : String) (world : σ) :
    Transferred σ :=
  match clearTarget copier path world with
  | .error fault => { failure := some (.fileAccess fault.message), world }
  | .ok world =>
    let copied := copier.download spec.endpoint spec.remotePath path world
    { failure := copied.failure
      trace := [shownLine ("scp download " ++ spec.remotePath ++ " start"),
          .downloaded spec.endpoint spec.remotePath path] ++
        if copied.failure.isNone then
          [shownLine ("scp download file " ++ spec.localPath ++ " finish")]
        else []
      deliveries := copied.deliveries
      world := copied.world }

/-- Carry out a transfer; its local path is taken from a base directory. -/
def TransferSpec.execute (spec : TransferSpec) (copier : Copier σ) (base : String) (world : σ) :
    Transferred σ :=
  let path := Path.join base spec.localPath
  match spec.direction with
  | .upload => spec.upload copier path world
  | .download => spec.download copier path world

end ScriptedShell.Remote
