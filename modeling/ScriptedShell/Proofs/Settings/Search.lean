/-
# Searching for settings

A search for settings goes from candidate to candidate and uses the first one that gives settings;
one that is missing, cannot be read or is malformed is passed over (`search_of_gives`).  What stands
at the candidates behind the one that is used plays no part.  Settings that are found are validated
afterwards, so that a search never goes on behind settings that are not sound, and the settings to
begin with are sound in any case, since the default ones are (`isSound_initial`).
-/
import Mathlib
import ScriptedShell.Settings.Storage

namespace ScriptedShell

open Text

/-! ## Sound settings -/

/-- Whether every field of settings has a value that can be worked with. -/
structure Settings.IsSound (s : Settings) : Prop where
  program : s.shell.program ≠ ""
  defaultUser : ∃ c ∈ s.remote.defaultUser.toList, isBlank c = false
  defaultPort : 1 ≤ s.remote.defaultPort
  connectAttempts : 1 ≤ s.remote.connectAttempts
  connectTimeout : 1 ≤ s.remote.connectTimeoutSeconds ∧ s.remote.connectTimeoutSeconds ≤ 600
  sudoMarker : s.remote.sudoMarker ≠ ""
  passwordCue : s.remote.passwordCue ≠ ""
  rows : 1 ≤ s.display.rows
  anchorRow : 1 ≤ s.display.anchorRow

namespace Settings

/-- A text that is not blank has a character that is no blank. -/
theorem isBlankText_eq_false_iff {s : String} :
    isBlankText s = false ↔ ∃ c ∈ s.toList, isBlank c = false := by
  rw [isBlankText, List.all_eq_false]
  simp

/-- Settings pass all checks when they are sound. -/
theorem isValid_iff {s : Settings} : s.isValid = true ↔ s.IsSound := by
  simp only [isValid, checks, List.all_cons, List.all_nil, Bool.and_true, Bool.and_eq_true,
    Bool.not_eq_true', isBlankText_eq_false_iff, bne_iff_ne, decide_eq_true_eq]
  constructor
  · rintro ⟨hprogram, huser, hport, hattempts, htimeout, hmarker, hcue, hrows, hanchor⟩
    exact ⟨hprogram, huser, hport, hattempts, htimeout, hmarker, hcue, hrows, hanchor⟩
  · rintro ⟨hprogram, huser, hport, hattempts, htimeout, hmarker, hcue, hrows, hanchor⟩
    exact ⟨hprogram, huser, hport, hattempts, htimeout, hmarker, hcue, hrows, hanchor⟩

/-- Validation gives settings back when they are sound. -/
theorem validate_eq_ok_iff {s s' : Settings} : s.validate = .ok s' ↔ s' = s ∧ s.IsSound := by
  rw [← isValid_iff, isValid, List.all_eq_true, validate]
  cases hfind : checks.find? fun c => !c.holds s with
  | some c =>
    have hc : c.holds s = false := by simpa using List.find?_some hfind
    constructor
    · intro h
      cases h
    · rintro ⟨-, hall⟩
      have hholds := hall c (List.mem_of_find?_eq_some hfind)
      rw [hc] at hholds
      cases hholds
  | none =>
    have hall : ∀ c ∈ checks, c.holds s = true := by simpa using List.find?_eq_none.mp hfind
    constructor
    · intro h
      cases h
      exact ⟨rfl, hall⟩
    · rintro ⟨rfl, -⟩
      rfl

/-- The default settings are sound. -/
theorem isSound_default : Settings.default.IsSound := isValid_iff.mp (by decide +kernel)

end Settings

namespace Storage

open Files Local

variable {codecs : FileFormat → Codec} {m m' : Machine} {bases : List String}
  {candidate : FileFormat × String} {settings : Settings} {options : SearchOptions}

/-! ## Candidates -/

/-- The candidates of a base path are its files of both formats, before those of the next one. -/
theorem candidates_cons (base : String) (bases : List String) :
    candidates (base :: bases) = (FileFormat.toml, Path.withExtension base "toml") ::
      (FileFormat.json, Path.withExtension base "json") :: candidates bases := rfl

/-- The two candidates of each base path stand at its place among the candidates. -/
theorem getElem?_candidates (bases : List String) (i : Nat) :
    (candidates bases)[2 * i]? =
        bases[i]?.map (fun base => (FileFormat.toml, Path.withExtension base "toml")) ∧
      (candidates bases)[2 * i + 1]? =
        bases[i]?.map (fun base => (FileFormat.json, Path.withExtension base "json")) := by
  induction bases generalizing i with
  | nil => exact ⟨rfl, rfl⟩
  | cons base bases ih =>
    rw [candidates_cons]
    cases i with
    | zero => exact ⟨rfl, rfl⟩
    | succ i => exact ih i

/-- Whether a candidate is there, can be read and holds settings in its format. -/
def Gives (codecs : FileFormat → Codec) (m : Machine) (candidate : FileFormat × String)
    (settings : Settings) : Prop :=
  m.tree.reaches m.place candidate.2 = true ∧
    ∃ text, m.tree.readText m.place candidate.2 = .ok text ∧
      (codecs candidate.1).decode text = .ok settings

/-- Whether a candidate is missing, cannot be read or holds no settings in its format. -/
def GivesNothing (codecs : FileFormat → Codec) (m : Machine) (candidate : FileFormat × String) :
    Prop :=
  m.tree.reaches m.place candidate.2 = false ∨
    (∃ fault, m.tree.readText m.place candidate.2 = .error fault) ∨
    ∃ text reason, m.tree.readText m.place candidate.2 = .ok text ∧
      (codecs candidate.1).decode text = .error reason

/-- Whether two machines have the same at a path, as far as reading goes. -/
def SameAt (m m' : Machine) (path : String) : Prop :=
  m'.tree.reaches m'.place path = m.tree.reaches m.place path ∧
    m'.tree.readText m'.place path = m.tree.readText m.place path

/-- A candidate gives settings or nothing. -/
theorem gives_or_givesNothing (codecs : FileFormat → Codec) (m : Machine)
    (candidate : FileFormat × String) :
    (∃ settings, Gives codecs m candidate settings) ∨ GivesNothing codecs m candidate := by
  unfold Gives GivesNothing
  cases m.tree.reaches m.place candidate.2 with
  | false => exact .inr (.inl rfl)
  | true =>
    cases m.tree.readText m.place candidate.2 with
    | error fault => exact .inr (.inr (.inl ⟨fault, rfl⟩))
    | ok text =>
      cases hdecode : (codecs candidate.1).decode text with
      | error reason => exact .inr (.inr (.inr ⟨text, reason, rfl, hdecode⟩))
      | ok settings => exact .inl ⟨settings, rfl, text, rfl, hdecode⟩

/-- What a candidate gives is read from it. -/
theorem readCandidate?_of_gives (h : Gives codecs m candidate settings) :
    readCandidate? codecs m candidate = some (candidate.2, settings) := by
  obtain ⟨hreaches, text, htext, hdecode⟩ := h
  rw [readCandidate?, if_pos hreaches, read, htext]
  dsimp only
  rw [hdecode]
  rfl

/-- Nothing is read from a candidate that gives nothing. -/
theorem readCandidate?_of_givesNothing (h : GivesNothing codecs m candidate) :
    readCandidate? codecs m candidate = none := by
  unfold readCandidate?
  split_ifs with hreaches
  · rw [read]
    obtain hmissing | ⟨fault, hread⟩ | ⟨text, reason, htext, hdecode⟩ := h
    · rw [hreaches] at hmissing
      cases hmissing
    · rw [hread]
      rfl
    · rw [htext]
      dsimp only
      rw [hdecode]
      rfl
  · rfl

/-- A candidate gives the same where it looks the same. -/
theorem Gives.of_sameAt (h : Gives codecs m candidate settings)
    (hsame : SameAt m m' candidate.2) : Gives codecs m' candidate settings := by
  obtain ⟨hreaches, hread⟩ := hsame
  rwa [Gives, hreaches, hread]

/-- A candidate gives nothing where it looks the same. -/
theorem GivesNothing.of_sameAt (h : GivesNothing codecs m candidate)
    (hsame : SameAt m m' candidate.2) : GivesNothing codecs m' candidate := by
  obtain ⟨hreaches, hread⟩ := hsame
  rwa [GivesNothing, hreaches, hread]

/-! ## The first candidate that gives settings -/

/-- Among candidates there is a first one that gives settings, or all give nothing. -/
theorem exists_first_gives (codecs : FileFormat → Codec) (m : Machine)
    (cs : List (FileFormat × String)) :
    (∃ before candidate after settings, cs = before ++ candidate :: after ∧
        (∀ other ∈ before, GivesNothing codecs m other) ∧ Gives codecs m candidate settings) ∨
      ∀ candidate ∈ cs, GivesNothing codecs m candidate := by
  induction cs with
  | nil => exact .inr (by simp)
  | cons first cs ih =>
    obtain ⟨settings, hfirst⟩ | hfirst := gives_or_givesNothing codecs m first
    · exact .inl ⟨[], first, cs, settings, rfl, by simp, hfirst⟩
    · rcases ih with ⟨before, candidate, after, settings, rfl, hbefore, hcandidate⟩ | hall
      · exact .inl ⟨first :: before, candidate, after, settings, rfl,
          List.forall_mem_cons.mpr ⟨hfirst, hbefore⟩, hcandidate⟩
      · exact .inr (List.forall_mem_cons.mpr ⟨hfirst, hall⟩)

/-- **A search uses the first candidate that gives settings.** -/
theorem search_of_gives {before after : List (FileFormat × String)}
    (hcandidates : candidates bases = before ++ candidate :: after)
    (hbefore : ∀ other ∈ before, GivesNothing codecs m other)
    (h : Gives codecs m candidate settings) :
    search codecs m bases options = (options.check settings, some candidate.2) := by
  have hpassed : before.findSome? (readCandidate? codecs m) = none :=
    List.findSome?_eq_none_iff.mpr fun other hother =>
      readCandidate?_of_givesNothing (hbefore other hother)
  have hfind : find? codecs m bases = some (candidate.2, settings) := by
    rw [find?, hcandidates, List.findSome?_append, hpassed, Option.none_or, List.findSome?_cons,
      readCandidate?_of_gives h]
  rw [search, hfind]

/-- Without a candidate that gives settings, the default ones are used if that is asked for. -/
theorem search_of_givesNothing
    (h : ∀ candidate ∈ candidates bases, GivesNothing codecs m candidate) :
    search codecs m bases options =
      (if options.useDefault then options.check .default else .error .settingsNotFound, none) := by
  have hfind : find? codecs m bases = none :=
    List.findSome?_eq_none_iff.mpr fun candidate hcandidate =>
      readCandidate?_of_givesNothing (h candidate hcandidate)
  rw [search, hfind]

/-- What stands behind the first candidate that gives settings plays no part, nor do the files of
any other paths. -/
theorem search_eq_of_sameAt {bases' : List String}
    {before after after' : List (FileFormat × String)}
    (hcandidates : candidates bases = before ++ candidate :: after)
    (hcandidates' : candidates bases' = before ++ candidate :: after')
    (hbefore : ∀ other ∈ before, GivesNothing codecs m other)
    (h : Gives codecs m candidate settings)
    (hsame : ∀ other ∈ before ++ [candidate], SameAt m m' other.2) :
    search codecs m' bases' options = search codecs m bases options := by
  have hbefore' : ∀ other ∈ before, GivesNothing codecs m' other := fun other hother =>
    (hbefore other hother).of_sameAt (hsame other (List.mem_append_left _ hother))
  have h' : Gives codecs m' candidate settings := h.of_sameAt (hsame candidate (by simp))
  rw [search_of_gives hcandidates hbefore h, search_of_gives hcandidates' hbefore' h']

/-! ## Sound results -/

/-- Settings that are checked are sound if they must be valid. -/
theorem isSound_of_check (hvalidate : options.validate = true) {s : Settings}
    (h : options.check s = .ok settings) : settings.IsSound := by
  rw [SearchOptions.check, if_pos hvalidate] at h
  obtain ⟨rfl, hsound⟩ := Settings.validate_eq_ok_iff.mp h
  exact hsound

/-- What a search gives is sound if it must be valid. -/
theorem isSound_of_search (hvalidate : options.validate = true)
    (h : (search codecs m bases options).1 = .ok settings) : settings.IsSound := by
  unfold search at h
  split at h
  · exact isSound_of_check hvalidate h
  · dsimp only at h
    split_ifs at h
    exact isSound_of_check hvalidate h

/-- **The settings to begin with are sound.** -/
theorem isSound_initial (codecs : FileFormat → Codec) (m : Machine) :
    (initial codecs m).IsSound := by
  unfold initial
  split
  · rename_i settings hsearch
    exact isSound_of_search rfl hsearch
  · exact Settings.isSound_default

/-- The settings to begin with are those that a search at the standard paths gives. -/
theorem initial_eq_of_search (h : (search codecs m (standardBases m) {}).1 = .ok settings) :
    initial codecs m = settings := by
  rw [initial, h]

/-- Settings are not looked for any further when loading fails. -/
theorem initial_eq_default {failure : Failure}
    (h : (search codecs m (standardBases m) {}).1 = .error failure) :
    initial codecs m = .default := by
  rw [initial, h]

/-- **Searching for settings.**  The candidates are the files of both formats of each base path, in
order.  Of them the first one that gives settings is used and noted; those before it that are
missing, unreadable or malformed are passed over, and whatever stands behind it, or at any other
path, the search ends in the same way.  When no candidate gives settings, there is nothing to note,
and the default settings are used or the search fails.  Where settings must be valid, those that a
search gives are sound, and the settings to begin with are sound always: they are those that a
search at the standard paths gives, and the default ones when it fails. -/
theorem search_uses_first (codecs : FileFormat → Codec) (m : Machine) (bases : List String)
    (options : SearchOptions) :
    (∀ i, (candidates bases)[2 * i]? =
          bases[i]?.map (fun base => (FileFormat.toml, Path.withExtension base "toml")) ∧
        (candidates bases)[2 * i + 1]? =
          bases[i]?.map (fun base => (FileFormat.json, Path.withExtension base "json"))) ∧
      ((∃ before candidate after settings, candidates bases = before ++ candidate :: after ∧
          (∀ other ∈ before, GivesNothing codecs m other) ∧ Gives codecs m candidate settings ∧
          search codecs m bases options = (options.check settings, some candidate.2) ∧
          ∀ m' bases' after', candidates bases' = before ++ candidate :: after' →
            (∀ other ∈ before ++ [candidate], SameAt m m' other.2) →
            search codecs m' bases' options = search codecs m bases options) ∨
        (∀ candidate ∈ candidates bases, GivesNothing codecs m candidate) ∧
          search codecs m bases options =
            (if options.useDefault then options.check .default else .error .settingsNotFound,
              none)) ∧
      (options.validate = true → ∀ settings, (search codecs m bases options).1 = .ok settings →
        settings.IsSound ∧ settings.validate = .ok settings) ∧
      (initial codecs m).IsSound ∧ (initial codecs m).validate = .ok (initial codecs m) ∧
      (∀ settings, (search codecs m (standardBases m) {}).1 = .ok settings →
        initial codecs m = settings) ∧
      ∀ failure, (search codecs m (standardBases m) {}).1 = .error failure →
        initial codecs m = .default := by
  refine ⟨getElem?_candidates bases, ?used, ?sound, isSound_initial codecs m, ?valid,
    fun _ h => initial_eq_of_search h, fun _ h => initial_eq_default h⟩
  case used =>
    obtain ⟨before, candidate, after, settings, hcandidates, hbefore, h⟩ | hall :=
      exists_first_gives codecs m (candidates bases)
    · refine .inl ⟨before, candidate, after, settings, hcandidates, hbefore, h,
        search_of_gives hcandidates hbefore h, ?_⟩
      intro m' bases' after' hcandidates' hsame
      exact search_eq_of_sameAt hcandidates hcandidates' hbefore h hsame
    · exact .inr ⟨hall, search_of_givesNothing hall⟩
  case sound =>
    intro hvalidate settings h
    have hsound := isSound_of_search hvalidate h
    exact ⟨hsound, Settings.validate_eq_ok_iff.mpr ⟨rfl, hsound⟩⟩
  case valid => exact Settings.validate_eq_ok_iff.mpr ⟨rfl, isSound_initial codecs m⟩

/-- A machine with a directory in place of a file of settings, a malformed file, and two files that
give settings. -/
def machineWithFiles : Machine where
  tree := {
    nodes := [(["etc"], .directory), (["etc", "a.toml"], .directory),
      (["etc", "a.json"], .file "\x7b \"remote\": ".toUTF8.toList),
      (["etc", "b.json"],
        .file "\x7b \"remote\": \x7b \"connect_attempts\": 5 \x7d \x7d".toUTF8.toList),
      (["etc", "c.toml"], .file "[display]\nrows = 0".toUTF8.toList)] }

/-- Three candidates are passed over, and the two behind the one that is used play no part. -/
theorem search_uses_first_fourthCandidate :
    let bases := ["/etc/a", "/etc/b", "/etc/c"]
    let settings : Settings := { remote := { connectAttempts := 5 } }
    search Codec.standard machineWithFiles bases {} = (.ok settings, some "/etc/b.json") ∧
      settings.IsSound ∧
      (search Codec.standard machineWithFiles bases.reverse {}).1 =
        .error (.settingsInvalid "display.rows" "Rows must be greater than 0") ∧
      (initial Codec.standard machineWithFiles).IsSound := by
  intro bases settings
  obtain ⟨-, -, hsound, hinitial, -⟩ :=
    search_uses_first Codec.standard machineWithFiles bases {}
  have hsearch : search Codec.standard machineWithFiles bases {} =
      (.ok settings, some "/etc/b.json") := by decide +kernel
  exact ⟨hsearch, (hsound rfl settings (by rw [hsearch])).1, by decide +kernel, hinitial⟩

end Storage

end ScriptedShell
