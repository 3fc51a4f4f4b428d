/-
# Saving settings

Settings that have been saved are loaded back from the same path, whatever its extension is: the
format that they are written in is the one that they are read in (`load_of_save`).  They come back
unchanged when they are sound, and are refused when they are not.  A device keeps nothing: what is
saved there is gone (`device_keeps_no_settings`).  Settings that cannot be written in a format leave
every file as it was.
-/
import Mathlib
import ScriptedShell.Proofs.Files.Writing
import ScriptedShell.Proofs.Settings.Search

namespace ScriptedShell

/-- The first check that settings fail is reported. -/
theorem Settings.validate_of_not_isSound {s : Settings} (h : ¬ s.IsSound) :
    ∃ c ∈ checks, c.holds s = false ∧ s.validate = .error (.settingsInvalid c.field c.reason) := by
  rw [validate]
  cases hfind : checks.find? fun c => !c.holds s with
  | some c =>
    have hc : c.holds s = false := by simpa using List.find?_some hfind
    exact ⟨c, List.mem_of_find?_eq_some hfind, hc, rfl⟩
  | none =>
    refine absurd (isValid_iff.mp ?_) h
    rw [isValid, List.all_eq_true]
    simpa using List.find?_eq_none.mp hfind

namespace Storage

open Files Local

variable {codecs : FileFormat → Codec} {m m' : Machine} {settings : Settings} {path : String}
  {failure? : Option Failure}

/-- Whether the settings come back from each format that they can be written in. -/
def ComesBack (codecs : FileFormat → Codec) (settings : Settings) : Prop :=
  ∀ format text, (codecs format).encode settings = .ok text →
    (codecs format).decode text = .ok settings

/-- Settings are saved in two steps: the directories on the way are made, and the file is written
among them.  If only the second one fails, the directories stay. -/
theorem exists_of_save (h : save codecs m settings path = (failure?, m')) :
    (∃ fault, failure? = some (.fileAccess fault) ∧ m' = m) ∨
      ∃ tree, m.tree.makeDirectories m.place ((Path.parent? path).getD "") = .ok tree ∧
        ((∃ failure, write codecs { m with tree } settings path = .error failure ∧
            failure? = some failure ∧ m' = { m with tree }) ∨
          ∃ tree', write codecs { m with tree } settings path = .ok tree' ∧
            failure? = none ∧ m' = { m with tree := tree' }) := by
  unfold save at h
  split at h
  · next fault _ =>
    cases h
    exact .inl ⟨_, rfl, rfl⟩
  · next tree htree =>
    dsimp only at h
    split at h
    · next failure hwrite =>
      cases h
      exact .inr ⟨tree, htree, .inl ⟨failure, hwrite, rfl, rfl⟩⟩
    · next tree' hwrite =>
      cases h
      exact .inr ⟨tree, htree, .inr ⟨tree', hwrite, rfl, rfl⟩⟩

/-- Settings that are written in the format of a path are read from there in the same one. -/
theorem read_of_write {tree : Tree} (hback : ComesBack codecs settings)
    (hplace : m.tree.IsCanonical m.place) (h : write codecs m settings path = .ok tree)
    (hdevice : tree.isDevice m.place path = false) :
    read codecs { m with tree } (formatOf path) path = .ok settings := by
  unfold write at h
  split at h
  · cases h
  · next text hencode =>
    split at h
    · cases h
    · next tree' hwrite =>
      obtain rfl : tree' = tree := Except.ok.inj h
      unfold read
      rw [Tree.readText_of_write hplace hwrite hdevice]
      dsimp only
      rw [hback (formatOf path) text hencode]

/-- **Settings that have been saved are loaded back.**  Let settings come back from the formats that
they can be written in, and let no link lead to the directory that paths are taken from.  When the
settings have been saved at a path, and the path does not lead to a device, they are loaded from it
as they were if they are sound, and refused for a check that they fail if they are not.  When they
cannot be written in the format of the path, saving fails, and all that could be read before, at the
path or anywhere else, can be read as it was. -/
theorem load_of_save (hback : ComesBack codecs settings)
    (hplace : m.tree.IsCanonical m.place) (h : save codecs m settings path = (failure?, m')) :
    (failure? = none → m'.tree.isDevice m'.place path = false →
        (settings.IsSound → load codecs m' path = .ok settings) ∧
        (¬ settings.IsSound → ∃ c ∈ Settings.checks, c.holds settings = false ∧
          load codecs m' path = .error (.settingsInvalid c.field c.reason))) ∧
      ∀ reason, (codecs (formatOf path)).encode settings = .error reason →
        failure? ≠ none ∧ m'.place = m.place ∧ ∀ other bytes,
          m.tree.read m.place other = .ok bytes → m'.tree.read m'.place other = .ok bytes := by
  constructor
  case left =>
    rintro rfl hdevice
    obtain ⟨_, hfailed, -⟩ | ⟨tree, hdirectories, ⟨_, _, hfailed, -⟩ | ⟨tree', hwrite, -, rfl⟩⟩ :=
      exists_of_save h
    · cases hfailed
    · cases hfailed
    -- the file is written, and read again, in the tree with the directories
    have hgrows := Tree.grows_of_makeDirectories hdirectories
    have hread := read_of_write (m := { m with tree }) hback (hgrows.isCanonical hplace) hwrite
      hdevice
    have hload : load codecs { m with tree := tree' } path = settings.validate := by
      unfold load
      rw [hread]
      rfl
    rw [hload]
    exact ⟨fun hvalid => Settings.validate_eq_ok_iff.mpr ⟨rfl, hvalid⟩,
      Settings.validate_of_not_isSound⟩
  case right =>
    intro reason hencode
    have hwrite (m : Machine) : write codecs m settings path =
        .error (.settingsNotSerialized (formatOf path).title reason) := by
      rw [write, hencode]
    obtain ⟨_, rfl, rfl⟩ | ⟨tree, hdirectories, ⟨_, -, rfl, rfl⟩ | ⟨_, hwritten, -, -⟩⟩ :=
      exists_of_save h
    · exact ⟨by simp, rfl, fun _ _ hread => hread⟩
    · -- the directories stay, and files are where they were
      have hgrows := Tree.grows_of_makeDirectories hdirectories
      exact ⟨by simp, rfl, fun _ _ hread => hgrows.read hread⟩
    · rw [hwrite] at hwritten
      cases hwritten

/-- Codecs that write as the standard ones do, give back the settings that they have written, and
read every other text as the standard ones do. -/
def givingBack (settings : Settings) (format : FileFormat) : Codec where
  encode := (Codec.standard format).encode
  decode text :=
    if (Codec.standard format).encode settings = .ok text then .ok settings
    else (Codec.standard format).decode text

theorem comesBack_givingBack (settings : Settings) : ComesBack (givingBack settings) settings :=
  fun _ _ h => if_pos h

/-- A machine with a device, and with a link to a directory. -/
def linkedMachine : Machine where
  tree := {
    nodes := [(["dev"], .directory), (["dev", "null"], .device .null), (["home"], .directory),
      (["tmp"], .directory), (["tmp", "settings"], .link "../home")] }
  place := ["tmp"]

/-- No link leads to the place of the machine. -/
theorem isCanonical_linkedMachine : linkedMachine.tree.IsCanonical linkedMachine.place := by
  have hinits : ∀ q ∈ linkedMachine.place.inits, linkedMachine.tree.at? q = some .directory := by
    decide
  intro q hq target hlink
  rw [hinits q ((List.mem_inits _ _).mpr hq)] at hlink
  cases hlink

/-- Settings of every kind: some with the largest numbers, and some that differ from the default
ones. -/
def largeSettings : Settings where
  shell := { environment := [("LANG", "C\n")], workingDirectory := some "" }
  remote := { connectAttempts := max32, passwordCueTimeoutMilliseconds := max64 }
  display := { width := some max64 }
  capture := [("a\"b", { rule := .valueIsMarked, skip := 1 })]

/-- They are saved behind a link, in directories that were missing. -/
theorem load_of_save_behindLink :
    let codecs := givingBack largeSettings
    let path := "settings/new/./shellrunner.json"
    let saved := save codecs linkedMachine largeSettings path
    saved.1 = none ∧ saved.2.tree.isDevice saved.2.place path = false ∧ largeSettings.IsSound ∧
      load codecs saved.2 path = .ok largeSettings := by
  intro codecs path saved
  have hsaved : saved.1 = none := by decide +kernel
  have hdevice : saved.2.tree.isDevice saved.2.place path = false := by decide +kernel
  have hsound : largeSettings.IsSound := Settings.isValid_iff.mp (by decide +kernel)
  have hsave : save codecs linkedMachine largeSettings path = (saved.1, saved.2) := Prod.mk.eta.symm
  obtain ⟨hload, -⟩ :=
    load_of_save (comesBack_givingBack largeSettings) isCanonical_linkedMachine hsave
  exact ⟨hsaved, hdevice, hsound, (hload hsaved hdevice).1 hsound⟩

/-- **A device keeps no settings**: they are saved there, and the default ones are loaded. -/
theorem device_keeps_no_settings :
    let settings : Settings := { display := { rows := 30 } }
    let saved := save (givingBack settings) linkedMachine settings "/dev/null"
    ComesBack (givingBack settings) settings ∧ settings.IsSound ∧ saved.1 = none ∧
      load (givingBack settings) saved.2 "/dev/null" = .ok .default ∧ settings ≠ .default := by
  intro settings saved
  have hsound : settings.IsSound := Settings.isValid_iff.mp (by decide +kernel)
  exact ⟨comesBack_givingBack settings, hsound, by decide +kernel, by decide +kernel,
    by decide +kernel⟩

end Storage

end ScriptedShell
