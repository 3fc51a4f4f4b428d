/-
# Downloads that fail

A download takes the local file away before it copies the remote one.  When the copy fails and has
not touched the local file itself, what stood there before is there again only if nothing was taken
away (`execute_keeps_iff`): there was no file, or it could not be removed.
-/
import Mathlib
import ScriptedShell.Proofs.Files.Removal
import ScriptedShell.Run.Scene

namespace ScriptedShell.Remote

open Files

variable {σ : Type} {copier : Copier σ} {spec : TransferSpec} {path : String} {world world' : σ}

/-! ## The files of a world -/

/-- Where worlds keep their files: in a tree, with a place that relative paths are taken from. -/
structure Disk (σ : Type) where
  tree : σ → Tree
  current : σ → Place

namespace Disk

/-- What stands where a path leads, and nothing if it leads nowhere. -/
def at? (disk : Disk σ) (path : String) (world : σ) : Option Node :=
  ((disk.tree world).node (disk.current world) path).toOption.map Prod.snd

/-- Whether a copier looks for files on a disk and takes them away there.  Taking a file away may
fail for any reason. -/
structure IsOf (disk : Disk σ) (copier : Copier σ) : Prop where
  isFile : ∀ path world,
    copier.isFile path world = (disk.tree world).isFile (disk.current world) path
  removeFile : ∀ {path world world'}, copier.removeFile path world = .ok world' →
    (disk.tree world).remove (disk.current world) path = .ok (disk.tree world') ∧
      disk.current world' = disk.current world

variable {disk : Disk σ}

/-- Where there is a file something stands. -/
theorem IsOf.isSome_of_isFile (h : disk.IsOf copier) (hfile : copier.isFile path world = true) :
    (disk.at? path world).isSome = true := by
  rw [h.isFile, Tree.isFile] at hfile
  rw [at?]
  cases hnode : (disk.tree world).node (disk.current world) path with
  | error fault =>
    rw [hnode] at hfile
    cases hfile
  | ok found => rfl

/-- Where a file has been taken away nothing stands. -/
theorem IsOf.eq_none_of_removeFile (h : disk.IsOf copier)
    (hremoved : copier.removeFile path world = .ok world') : disk.at? path world' = none := by
  obtain ⟨htree, hcurrent⟩ := h.removeFile hremoved
  obtain ⟨fault, hnode⟩ := Tree.node_of_remove htree
  rw [at?, hcurrent, hnode]
  rfl

/-- **Clearing the way for a download** leaves what stands there exactly when there was no file. -/
theorem IsOf.at?_clearTarget_iff (h : disk.IsOf copier)
    (hcleared : clearTarget copier path world = .ok world') :
    disk.at? path world' = disk.at? path world ↔ copier.isFile path world = false := by
  rw [clearTarget] at hcleared
  cases hfile : copier.isFile path world with
  | false =>
    rw [hfile] at hcleared
    obtain rfl := Except.ok.inj hcleared
    exact iff_of_true rfl rfl
  | true =>
    rw [hfile] at hcleared
    refine iff_of_false (fun hsame => ?_) (Bool.false_ne_true ∘ Eq.symm)
    have hsome := h.isSome_of_isFile hfile
    rw [← hsame, h.eq_none_of_removeFile hcleared] at hsome
    cases hsome

end Disk

/-! ## Failing -/

/-- The way for a download cannot be cleared exactly when there is a file that cannot be taken
away. -/
theorem clearTarget_eq_error_iff {fault : FileFault} :
    clearTarget copier path world = .error fault ↔
      copier.isFile path world = true ∧ copier.removeFile path world = .error fault := by
  rw [clearTarget]
  cases copier.isFile path world with
  | false => exact iff_of_false (by simp) (by simp)
  | true => simp

/-- **Which failed downloads leave the local file alone.**  When a download fails, and the copier
has not touched the local file, there is the same file as before, or none as before, exactly when
there was none, or it could not be taken away. -/
theorem execute_keeps_iff {disk : Disk σ} (hdisk : disk.IsOf copier)
    (hdirection : spec.direction = .download) (base : String) (world : σ)
    (hfailed : (spec.execute copier base world).failure ≠ none)
    (huntouched : let path := Path.join base spec.localPath
      ∀ cleared, clearTarget copier path world = .ok cleared →
        let copied := copier.download spec.endpoint spec.remotePath path cleared
        copied.failure ≠ none → disk.at? path copied.world = disk.at? path cleared) :
    let path := Path.join base spec.localPath
    disk.at? path (spec.execute copier base world).world = disk.at? path world ↔
      copier.isFile path world = false ∨ ∃ fault, copier.removeFile path world = .error fault := by
  intro path
  have hexecute : spec.execute copier base world = spec.download copier path world := by
    rw [TransferSpec.execute, hdirection]
  rw [hexecute, TransferSpec.download] at hfailed ⊢
  cases hcleared : clearTarget copier path world with
  | error fault =>
    obtain ⟨-, hremove⟩ := clearTarget_eq_error_iff.mp hcleared
    exact iff_of_true rfl (.inr ⟨fault, hremove⟩)
  | ok cleared =>
    rw [hcleared] at hfailed
    dsimp only at hfailed ⊢
    rw [huntouched cleared hcleared hfailed, hdisk.at?_clearTarget_iff hcleared]
    refine ⟨.inl, fun h => h.elim id fun ⟨fault, hremove⟩ => ?_⟩
    by_contra hfile
    have herror := clearTarget_eq_error_iff.mpr ⟨by simpa using hfile, hremove⟩
    rw [hcleared] at herror
    cases herror

/-! ## Scenes -/

/-- The disk of a scene. -/
def sceneDisk : Disk Run.Scene := ⟨fun s => s.machine.tree, fun s => s.machine.place⟩

/-- The scripted copier acts on the disk of its scene. -/
theorem isOf_sceneDisk : sceneDisk.IsOf Run.Scene.copier where
  isFile _ _ := rfl
  removeFile {path scene scene'} h := by
    simp only [Run.Scene.copier] at h
    cases hremove : scene.machine.tree.remove scene.machine.place path with
    | error fault =>
      rw [hremove] at h
      cases h
    | ok tree =>
      rw [hremove] at h
      obtain rfl := Except.ok.inj h
      exact ⟨hremove, rfl⟩

/-- A scripted download that fails has changed nothing. -/
theorem world_download {remotePath : String} {scene : Run.Scene}
    (h : (scene.download remotePath path).failure ≠ none) :
    (scene.download remotePath path).world = scene := by
  rw [Run.Scene.download] at h ⊢
  split
  · rfl
  · next hnone =>
    rw [hnone] at h
    dsimp only at h
    split at h
    · exact absurd rfl h
    · rfl

/-- A download into a local file. -/
def logDownload : TransferSpec :=
  { direction := .download
    endpoint := { host := "box", port := 22, user := "deploy", password := "hunter2" }
    localPath := "app.log"
    remotePath := "/missing" }

/-- A scene with that file, in which downloads fail. -/
def failingScene : Run.Scene :=
  { machine := { tree := ({} : Tree).put ["app.log"] (.file [0x31]) }
    shell := .prepared "/" []
    downloads := { error := some "No such file" } }

/-- The scripted copier on a disk where nothing can be taken away. -/
def writeProtected : Copier Run.Scene :=
  { Run.Scene.copier with removeFile := fun _ _ => .error .denied }

/-- A file that cannot be taken away is still there when the download has failed. -/
theorem execute_keeps_iff_writeProtected :
    let done := logDownload.execute writeProtected "/" failingScene
    logDownload.direction = .download ∧
      done.failure = some (.fileAccess "Permission denied (os error 13)") ∧
      sceneDisk.at? "/app.log" failingScene = some (.file [0x31]) ∧
      sceneDisk.at? "/app.log" done.world = some (.file [0x31]) := by
  intro done
  have hdisk : sceneDisk.IsOf writeProtected := ⟨fun _ _ => rfl, fun h => nomatch h⟩
  have hdirection : logDownload.direction = .download := rfl
  have hfailure : done.failure = some (.fileAccess "Permission denied (os error 13)") := by
    decide +kernel
  have hbefore : sceneDisk.at? "/app.log" failingScene = some (.file [0x31]) := by decide +kernel
  have hkept := (execute_keeps_iff hdisk hdirection "/" failingScene
    (fun hnone => nomatch hfailure.symm.trans hnone)
    (fun _ _ hfailed => congrArg _ (world_download hfailed))).mpr (.inr ⟨.denied, rfl⟩)
  exact ⟨hdirection, hfailure, hbefore, hkept.trans hbefore⟩

/-- **A download that fails leaves no local file**, although the copier has touched nothing. -/
theorem file_lost_by_failed_download :
    let done := logDownload.execute Run.Scene.copier "/" failingScene
    sceneDisk.IsOf Run.Scene.copier ∧
      done.failure = some (.transferFailed "/missing" "No such file") ∧
      (∀ cleared : Run.Scene, (cleared.download "/missing" "/app.log").failure ≠ none →
        (cleared.download "/missing" "/app.log").world = cleared) ∧
      sceneDisk.at? "/app.log" failingScene = some (.file [0x31]) ∧
      sceneDisk.at? "/app.log" done.world = none :=
  ⟨isOf_sceneDisk, by decide +kernel, fun _ => world_download, by decide +kernel,
    by decide +kernel⟩

end ScriptedShell.Remote
