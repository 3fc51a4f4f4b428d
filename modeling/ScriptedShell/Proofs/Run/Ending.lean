/-
# Runs that end, and runs that do not

A run has no result when a line is sent and never answered, or when files would run deeper inside
each other than the bound lets them; and then the run comes to the place of that line.  There is no
other way to have no result (`Place.run_eq_none_iff`, `Call.run_eq_none_iff`).  The bound does not
show in a run that has a result: with a larger one it has the same (`Call.run_of_deeper`).  So a
call that comes to no such place with some bound has a result, and the same one with every bound
from there on (`Call.exists_result_iff`).
-/
import Mathlib
import ScriptedShell.Proofs.Run.Commands
import ScriptedShell.Proofs.Run.Places

namespace ScriptedShell.Run

open Command Variable Text

variable {σ : Type} {r : Runner σ}

/-! ## Lines and places that are never left -/

/-- Whether a line has no result of its own accord: it is sent and never answered, or has files to
run where none can be run inside the others any more. -/
inductive HangsAt (r : Runner σ) (depth : Nat) (line : Line) (s : Session σ) : Prop
  | unanswered :
      line.keyword = .passthrough → s.remote.isConnected →
      (s.remote.send r.around.host r.setup line.raw).1 = .unanswered → HangsAt r depth line s
  | tooDeep : line.keyword = .run → filesOf line ≠ [] → depth = 0 → HangsAt r depth line s

/-- Whether a place is never left because of the line that is dispatched there. -/
def Hangs (r : Runner σ) (p : Place σ) : Prop :=
  ∃ line, p.line? r = some line ∧ HangsAt r p.depth line (carrying r line p.session)

/-- Whether a place is inside a file that a line runs. -/
def Inside (r : Runner σ) (line : Line) (s : Session σ) (depth : Nat) (q : Place σ) : Prop :=
  ∃ name p names, Opens r line s depth name p ∧ Comes r p names q

/-- Whether a call has no result because of the line that it dispatches. -/
def Call.Hangs (r : Runner σ) (depth : Nat) (s : Session σ) (call : Call) : Prop :=
  ∃ line, call.line? r s = some line ∧ HangsAt r depth line (carrying r line s)

/-- A typed line comes to the places inside the files that it runs, if it runs files. -/
theorem Call.exists_comes_iff_inside {text : String} {line : Line} {s : Session σ} {depth : Nat}
    {q : Place σ} (hline : (Call.line text).line? r s = some line) :
    (∃ names, (Call.line text).Comes r depth s names q) ↔
      line.keyword = .run ∧ Inside r line (carrying r line s) depth q := by
  constructor
  · rintro ⟨_, hcomes⟩
    cases hcomes with
    | line hline' hrun hopens hcomes =>
      obtain rfl := Option.some.inj (hline.symm.trans hline')
      exact ⟨hrun, _, _, _, hopens, hcomes⟩
  · rintro ⟨hrun, name, p, names, hopens, hcomes⟩
    exact ⟨_, .line hline hrun hopens hcomes⟩

/-! ## Carrying out one line -/

section Lines

variable {runFile : FileRunner σ} {line : Line} {file : Option FileRun} {s : Session σ}
  {depth : Nat}

/-- A line that runs files is carried out by running them. -/
theorem perform_run (hrun : line.keyword = .run) :
    perform r runFile line file s =
      (importFiles runFile line s).map fun (outcome, t) => (outcome, file, t) := by
  rw [perform, hrun]

/-- A line that is passed on while a connection is held is sent. -/
theorem perform_passthrough (hpass : line.keyword = .passthrough)
    (hconnected : s.remote.isConnected = true) :
    perform r runFile line file s =
      (sendLine r line s).map fun (outcome, t) => (outcome, file, t) := by
  rw [perform, hpass]
  dsimp only
  rw [passOn, if_pos hconnected]

/-- Only lines that are sent and never answered have no result, and those that run files. -/
theorem perform_eq_none (hrun : line.keyword ≠ .run)
    (h : perform r runFile line file s = none) :
    line.keyword = .passthrough ∧ s.remote.isConnected ∧
      (s.remote.send r.around.host r.setup line.raw).1 = .unanswered := by
  rw [perform] at h
  cases hkeyword : line.keyword <;> rw [hkeyword] at h
  case passthrough =>
    have hpassed : passOn r line s = none := by simpa using h
    rw [passOn] at hpassed
    split_ifs at hpassed with hconnected
    refine ⟨rfl, hconnected, ?_⟩
    rw [sendLine_eq] at hpassed
    dsimp only at hpassed
    split at hpassed
    · cases hpassed
    · cases hpassed
    · cases hpassed
    · assumption
  case run => exact absurd hkeyword hrun
  all_goals cases h

/-- Other lines do not depend on how files are run. -/
theorem perform_of_ne_run (hrun : line.keyword ≠ .run) (f g : FileRunner σ) :
    perform r f line file s = perform r g line file s := by
  rw [perform, perform]
  cases hkeyword : line.keyword
  case run => exact absurd hkeyword hrun
  all_goals rfl

end Lines

/-! ## Files one after the other -/

section Files

variable {runFile : FileRunner σ} {store : Store} {before after : List String} {name : String}
  {last outcome : Outcome} {s t : Session σ} {line : Line}

/-- Files after those that let the run go on. -/
theorem importEach_append (h : importEach runFile store last before s = some (outcome, t))
    (hgoes : outcome.canContinue = true) :
    importEach runFile store last (before ++ after) s =
      importEach runFile store outcome after t := by
  induction before generalizing last s with
  | nil =>
    cases h
    rfl
  | cons name before ih =>
    rw [importEach] at h
    rw [List.cons_append, importEach]
    rcases hfile : runFile name store s with _ | ⟨outcome', u⟩
    · rw [hfile] at h
      cases h
    · rw [hfile] at h
      dsimp only at h ⊢
      by_cases hfirst : outcome'.canContinue = true
      · rw [if_pos hfirst] at h ⊢
        exact ih h
      · rw [if_neg hfirst] at h
        cases h
        exact absurd hgoes hfirst

/-- Where files one after the other have no result, one of them has none, after others that have let
the run go on. -/
theorem exists_of_importEach_eq_none {names : List String} (hlast : last.canContinue = true)
    (h : importEach runFile store last names s = none) :
    ∃ before name after outcome t, names = before ++ name :: after ∧
      importEach runFile store last before s = some (outcome, t) ∧ outcome.canContinue = true ∧
      runFile name store t = none := by
  induction names generalizing last s with
  | nil => cases h
  | cons name names ih =>
    rw [importEach] at h
    rcases hfile : runFile name store s with _ | ⟨outcome, t⟩
    · exact ⟨[], name, names, last, s, rfl, rfl, hlast, hfile⟩
    · rw [hfile] at h
      dsimp only at h
      split_ifs at h with hgoes
      obtain ⟨before, name', after, outcome', u, rfl, hbefore, hgoes', hnone⟩ := ih hgoes h
      refine ⟨name :: before, name', after, outcome', u, rfl, ?_, hgoes', hnone⟩
      rw [importEach, hfile]
      dsimp only
      rw [if_pos hgoes, hbefore]

/-- A line that runs files has no result if one of them has none. -/
theorem importFiles_eq_none (hfiles : filesOf line = before ++ name :: after)
    (hbefore : importEach runFile line.store .next before { s with mode := .fileRun } =
      some (last, t))
    (hgoes : last.canContinue = true) (hfile : runFile name line.store t = none) :
    importFiles runFile line s = none := by
  have hsome : ¬(filesOf line).isEmpty = true := by simp [hfiles]
  rw [importFiles, if_neg hsome, hfiles, importEach_append hbefore hgoes, importEach, hfile]

/-- No file can be run where none can be run inside the others any more. -/
theorem importFiles_zero (hfiles : filesOf line ≠ []) :
    importFiles (Run.runFile r 0) line s = none := by
  obtain ⟨name, names, hcons⟩ := List.exists_cons_of_ne_nil hfiles
  have hfirst : filesOf line = [] ++ name :: names := hcons
  exact importFiles_eq_none hfirst rfl rfl rfl

/-- Where a line that runs files has no result, one of them has none. -/
theorem exists_of_importFiles_eq_none (h : importFiles runFile line s = none) :
    ∃ before name after outcome t, filesOf line = before ++ name :: after ∧
      importEach runFile line.store .next before { s with mode := .fileRun } =
        some (outcome, t) ∧
      outcome.canContinue = true ∧ runFile name line.store t = none := by
  rw [importFiles] at h
  split_ifs at h
  refine exists_of_importEach_eq_none rfl ?_
  rcases heach : importEach runFile line.store .next (filesOf line) { s with mode := .fileRun }
    with _ | ⟨outcome, t⟩
  · rfl
  · rw [heach] at h
    cases h

variable {depth : Nat} {path text : String}

/-- A file that is there and can be read is run from its first line on. -/
theorem runFound_text (hfile : r.around.copier.isFile path s.world)
    (htext : r.around.readText path s.world = .ok text) :
    runFound r (Run.runFile r depth) name path store s =
      (Place.start depth name store text s).run r := by
  rw [runFound, if_pos hfile, htext]
  rfl

/-- A file that is not there, or cannot be read, is passed over with a message. -/
theorem runFound_cases (r : Runner σ) (depth : Nat) (name path : String) (store : Store)
    (s : Session σ) :
    (∃ text, r.around.copier.isFile path s.world ∧ r.around.readText path s.world = .ok text) ∨
    ∃ message, runFound r (Run.runFile r depth) name path store s =
      some (.next, s.say message) := by
  by_cases hfile : r.around.copier.isFile path s.world
  · cases htext : r.around.readText path s.world with
    | ok text => exact .inl ⟨text, hfile, rfl⟩
    | error fault =>
      rw [runFound, if_pos hfile, htext]
      exact .inr ⟨_, rfl⟩
  · rw [runFound, if_neg hfile]
    exact .inr ⟨_, rfl⟩

/-- Where a file has no result, it is there and can be read, and the run of its lines has none. -/
theorem exists_of_runFile_eq_none (h : Run.runFile r (depth + 1) name store s = none) :
    ∃ text, r.around.copier.isFile
        (Files.Path.join (r.around.currentDirectory s.world) name) s.world ∧
      r.around.readText (Files.Path.join (r.around.currentDirectory s.world) name) s.world =
        .ok text ∧
      (Place.start depth name store text (begun name store s)).run r = none := by
  rw [runFile_succ, Option.map_eq_none_iff] at h
  obtain ⟨text, hfile, htext⟩ | ⟨message, hfound⟩ := runFound_cases r depth name
    (Files.Path.join (r.around.currentDirectory s.world) name) store (begun name store s)
  · rw [runFound_text hfile htext] at h
    exact ⟨text, hfile, htext, h⟩
  · rw [hfound] at h
    cases h

/-- A file that a line comes to and that has no result takes the line with it. -/
theorem Opens.importFiles_eq_none {p : Place σ} (h : Opens r line s depth name p)
    (hrun : p.run r = none) : importFiles (Run.runFile r depth) line s = none := by
  cases h with
  | file hfiles hbefore hgoes hfile htext =>
    refine Run.importFiles_eq_none hfiles hbefore hgoes ?_
    rw [runFile_succ, runFound_text (s := begun name line.store _) hfile htext, hrun]
    rfl

end Files

/-! ## Why a run has no result -/

section Hanging

variable {p q : Place σ} {line : Line} {file : Option FileRun} {s : Session σ} {depth : Nat}
  {names : List String}

/-- A line that is never left has no result. -/
theorem HangsAt.perform_eq_none (h : HangsAt r depth line s) :
    perform r (runFile r depth) line file s = none := by
  cases h with
  | unanswered hpass hconnected hsent =>
    rw [perform_passthrough hpass hconnected, sendLine_eq]
    dsimp only
    rw [hsent]
    rfl
  | tooDeep hrun hfiles hzero =>
    rw [hzero, perform_run hrun, importFiles_zero hfiles]
    rfl

/-- Where a line is dispatched that has no result, the run of the file has none. -/
theorem Place.run_of_perform_eq_none (hline : p.line? r = some line)
    (h : perform r (runFile r p.depth) line (some p.file) (carrying r line p.session) = none) :
    p.run r = none := by
  have hturn := Place.turn_of_line hline
  rw [h] at hturn
  obtain ⟨depth, suppress, file, _ | ⟨text, lines⟩, s⟩ := p
  · cases hline
  · exact Place.run_of_turn_eq_none rfl hturn

/-- Where the turn has no result, a line is dispatched that has none. -/
theorem line_of_turn_eq_none {text : String} {lines : List String}
    (hlines : p.lines = text :: lines) (h : p.turn r = none) :
    ∃ line, p.line? r = some line ∧
      perform r (runFile r p.depth) line (some p.file) (carrying r line p.session) = none := by
  obtain ⟨depth, suppress, file, lines', s⟩ := p
  obtain rfl : lines' = text :: lines := hlines
  change turn r (runFile r depth) suppress file text s = none at h
  cases hline : lineAt? r suppress file text s with
  | some line =>
    rw [turn_of_lineAt hline] at h
    exact ⟨line, hline, Option.map_eq_none_iff.mp h⟩
  | none =>
    obtain ⟨later, t, hturn, -⟩ | ⟨key, -, -, hturn⟩ := turn_of_not_lineAt hline
    all_goals
      rw [hturn] at h
      cases h

/-- **A place that is never left leaves every file around it without a result.**  By induction on
the way to the place. -/
theorem Comes.run_eq_none (h : Comes r p names q) (hhangs : Hangs r q) : p.run r = none := by
  induction h with
  | here p =>
    obtain ⟨line, hline, hat⟩ := hhangs
    exact Place.run_of_perform_eq_none hline hat.perform_eq_none
  | next hnext _ ih =>
    rw [Place.run_of_next hnext]
    exact ih hhangs
  | enter hline hrun hopens _ ih =>
    refine Place.run_of_perform_eq_none hline ?_
    rw [perform_run hrun, hopens.importFiles_eq_none (ih hhangs)]
    rfl

/-- A line without a result is never left itself, or a place inside its files is not, if this is
why it has none where it runs files. -/
theorem hangsAt_or_inside
    (himports : importFiles (runFile r depth) line s = none →
      (filesOf line ≠ [] ∧ depth = 0) ∨ ∃ q, Inside r line s depth q ∧ Hangs r q)
    (h : perform r (runFile r depth) line file s = none) :
    HangsAt r depth line s ∨
      (line.keyword = .run ∧ ∃ q, Inside r line s depth q ∧ Hangs r q) := by
  by_cases hrun : line.keyword = .run
  · rw [perform_run hrun, Option.map_eq_none_iff] at h
    obtain ⟨hfiles, hzero⟩ | hinside := himports h
    · exact .inl (.tooDeep hrun hfiles hzero)
    · exact .inr ⟨hrun, hinside⟩
  · obtain ⟨hpass, hconnected, hsent⟩ := perform_eq_none hrun h
    exact .inl (.unanswered hpass hconnected hsent)

/-- A file without a result comes to a place that is never left, if every line that runs files and
has no result does.  By induction on the lines of the file. -/
theorem Place.exists_hangs_of_importFiles
    (himports : ∀ line s, importFiles (runFile r p.depth) line s = none →
      (filesOf line ≠ [] ∧ p.depth = 0) ∨ ∃ q, Inside r line s p.depth q ∧ Run.Hangs r q)
    (h : p.run r = none) : ∃ names q, Run.Comes r p names q ∧ Run.Hangs r q := by
  induction hlines : p.lines generalizing p with
  | nil =>
    rw [Place.run_of_nil hlines] at h
    cases h
  | cons text lines ih =>
    rcases hturn : p.turn r with _ | ⟨suppress, file, t⟩ | ⟨outcome, file, t⟩
    · -- the line that comes up has no result, of its own accord or because of its files
      obtain ⟨line, hline, hnone⟩ := line_of_turn_eq_none hlines hturn
      obtain hat | ⟨hrun, q, ⟨name, p', names, hopens, hcomes⟩, hhangs⟩ :=
        hangsAt_or_inside (himports line _) hnone
      · exact ⟨[], p, .here p, line, hline, hat⟩
      · exact ⟨_, q, .enter hline hrun hopens hcomes, hhangs⟩
    · have hnext := Place.next?_of_turn hturn
      rw [Place.run_of_next hnext] at h
      set p' : Place σ := { p with suppress, file, lines := p.lines.tail, session := t }
      obtain ⟨names, q, hcomes, hhangs⟩ : ∃ names q, Run.Comes r p' names q ∧ Run.Hangs r q :=
        ih himports h (congrArg List.tail hlines)
      exact ⟨names, q, .next hnext hcomes, hhangs⟩
    · rw [Place.run_of_stop hturn] at h
      cases h

/-- **A line that runs files has no result only if none can be run so deep or a place inside them is
never left.**  By induction on how deep files can run inside each other. -/
theorem importFiles_eq_none_iff (r : Runner σ) (depth : Nat) (line : Line) (s : Session σ) :
    importFiles (runFile r depth) line s = none ↔
      (filesOf line ≠ [] ∧ depth = 0) ∨ ∃ q, Inside r line s depth q ∧ Hangs r q := by
  constructor
  · intro h
    induction depth generalizing line s with
    | zero =>
      obtain ⟨before, name, after, -, -, hfiles, -⟩ := exists_of_importFiles_eq_none h
      exact .inl ⟨by simp [hfiles], rfl⟩
    | succ depth ih =>
      obtain ⟨before, name, after, outcome, t, hfiles, hbefore, hgoes, hnone⟩ :=
        exists_of_importFiles_eq_none h
      obtain ⟨text, hfile, htext, hrun⟩ := exists_of_runFile_eq_none hnone
      obtain ⟨names, q, hcomes, hhangs⟩ := Place.exists_hangs_of_importFiles ih hrun
      exact .inr ⟨q, ⟨name, _, names, .file hfiles hbefore hgoes hfile htext, hcomes⟩, hhangs⟩
  · rintro (⟨hfiles, rfl⟩ | ⟨q, ⟨name, p, names, hopens, hcomes⟩, hhangs⟩)
    · exact importFiles_zero hfiles
    · exact hopens.importFiles_eq_none (hcomes.run_eq_none hhangs)

/-- **A file has no result exactly if the run comes to a place in it that is never left.** -/
theorem Place.run_eq_none_iff :
    p.run r = none ↔ ∃ names q, Run.Comes r p names q ∧ Run.Hangs r q := by
  constructor
  · exact Place.exists_hangs_of_importFiles fun line s =>
      (importFiles_eq_none_iff r p.depth line s).mp
  · rintro ⟨names, q, hcomes, hhangs⟩
    exact hcomes.run_eq_none hhangs

/-- A line has no result exactly if it is never left itself, or a place inside its files is not. -/
theorem perform_eq_none_iff :
    perform r (runFile r depth) line file s = none ↔
      HangsAt r depth line s ∨
        (line.keyword = .run ∧ ∃ q, Inside r line s depth q ∧ Hangs r q) := by
  constructor
  · exact hangsAt_or_inside (importFiles_eq_none_iff r depth line s).mp
  · rintro (hat | ⟨hrun, hinside⟩)
    · exact hat.perform_eq_none
    · rw [perform_run hrun, Option.map_eq_none_iff, importFiles_eq_none_iff]
      exact .inr hinside

namespace Call

variable {call : Call}

/-- A typed line that is not dispatched has nothing to do, whatever the bound. -/
theorem run_of_not_line {text : String} (h : (Call.line text).line? r s = none) :
    ∃ t, ∀ depth, (Call.line text).run r depth s = some (.next, t) := by
  rw [line?] at h
  split_ifs at h with hnothing
  simp only [run]
  by_cases hblank : isBlankText text = true
  · simp only [if_pos hblank]
    exact ⟨s, fun _ => rfl⟩
  · have hempty : ((resolveLine r.policies (.parse r.policies text) [s.store]).isBlank ||
        (resolveLine r.policies (.parse r.policies text) [s.store]).isComment) = true := by
      simpa [hblank] using hnothing
    simp only [if_neg hblank, dispatch, if_pos hempty]
    exact ⟨_, fun _ => rfl⟩

/-- **A call has no result exactly if its own line is never left, or it comes to a place that is
not.** -/
theorem run_eq_none_iff :
    call.run r depth s = none ↔
      call.Hangs r depth s ∨ ∃ names q, call.Comes r depth s names q ∧ Run.Hangs r q := by
  cases call with
  | script name text store =>
    rw [run, Option.map_eq_none_iff, Place.run_eq_none_iff]
    constructor
    · rintro ⟨names, q, hcomes, hhangs⟩
      exact .inr ⟨names, q, .script hcomes, hhangs⟩
    · rintro (⟨line, hline, -⟩ | ⟨names, q, hcomes, hhangs⟩)
      · cases hline
      · cases hcomes with
        | script hcomes => exact ⟨names, q, hcomes, hhangs⟩
  | line text =>
    cases hline : (Call.line text).line? r s with
    | none =>
      obtain ⟨t, hrun⟩ := run_of_not_line hline
      rw [hrun]
      refine iff_of_false (Option.some_ne_none _) ?_
      rintro (⟨line, hline', -⟩ | ⟨names, q, hcomes, -⟩)
      · cases hline.symm.trans hline'
      · cases hcomes with
        | line hline' => cases hline.symm.trans hline'
    | some line =>
      have hown : (Call.line text).Hangs r depth s ↔ HangsAt r depth line (carrying r line s) := by
        simp [Call.Hangs, hline]
      have hplaces : (∃ names q, (Call.line text).Comes r depth s names q ∧ Run.Hangs r q) ↔
          line.keyword = .run ∧
            ∃ q, Inside r line (carrying r line s) depth q ∧ Run.Hangs r q := by
        constructor
        · rintro ⟨names, q, hcomes, hhangs⟩
          obtain ⟨hrun, hinside⟩ := (exists_comes_iff_inside hline).mp ⟨names, hcomes⟩
          exact ⟨hrun, q, hinside, hhangs⟩
        · rintro ⟨hrun, q, hinside, hhangs⟩
          obtain ⟨names, hcomes⟩ := (exists_comes_iff_inside hline).mpr ⟨hrun, hinside⟩
          exact ⟨names, q, hcomes, hhangs⟩
      rw [run_of_line hline, Option.map_eq_none_iff, perform_eq_none_iff, hown, hplaces]

end Call

end Hanging

/-! ## Larger bounds -/

/-- Whether one way to run files gives all the results that another gives. -/
def Extends (f g : FileRunner σ) : Prop :=
  ∀ ⦃name : String⦄ ⦃store : Store⦄ ⦃s : Session σ⦄ ⦃x : Outcome × Session σ⦄,
    f name store s = some x → g name store s = some x

section Extending

variable {f g : FileRunner σ} {line : Line} {s : Session σ}

/-- Files one after the other. -/
theorem importEach_of_extends (hfg : Extends f g) {store : Store} {last : Outcome}
    {names : List String} {x : Outcome × Session σ} (h : importEach f store last names s = some x) :
    importEach g store last names s = some x := by
  induction names generalizing last s with
  | nil => exact h
  | cons name names ih =>
    rw [importEach] at h ⊢
    rcases hfile : f name store s with _ | ⟨outcome, t⟩
    · rw [hfile] at h
      cases h
    · rw [hfile] at h
      rw [hfg hfile]
      dsimp only at h ⊢
      split_ifs at h ⊢ with hgoes
      · exact ih h
      · exact h

/-- A line that runs files. -/
theorem importFiles_of_extends (hfg : Extends f g) {x : Outcome × Session σ}
    (h : importFiles f line s = some x) : importFiles g line s = some x := by
  rw [importFiles] at h ⊢
  split_ifs at h ⊢ with hnone
  · exact h
  · rcases heach : importEach f line.store .next (filesOf line) { s with mode := .fileRun }
      with _ | ⟨outcome, t⟩
    · rw [heach] at h
      cases h
    · rw [heach] at h
      rw [importEach_of_extends hfg heach]
      exact h

/-- Carrying out a line. -/
theorem perform_of_extends (hfg : Extends f g) {file : Option FileRun}
    {x : Outcome × Option FileRun × Session σ} (h : perform r f line file s = some x) :
    perform r g line file s = some x := by
  by_cases hrun : line.keyword = .run
  · rw [perform_run hrun] at h ⊢
    obtain ⟨y, himported, rfl⟩ := Option.map_eq_some_iff.mp h
    rw [importFiles_of_extends hfg himported]
    rfl
  · rw [perform_of_ne_run hrun g f]
    exact h

/-- One turn of a file run. -/
theorem turn_of_extends (hfg : Extends f g) {suppress : Bool} {file : FileRun} {text : String}
    {x : Turn σ} (h : turn r f suppress file text s = some x) :
    turn r g suppress file text s = some x := by
  cases hline : lineAt? r suppress file text s with
  | some line =>
    rw [turn_of_lineAt hline] at h ⊢
    obtain ⟨done, hdone, rfl⟩ := Option.map_eq_some_iff.mp h
    rw [perform_of_extends hfg hdone]
    rfl
  | none =>
    obtain ⟨later, t, hturn, -⟩ | ⟨key, -, -, hturn⟩ := turn_of_not_lineAt hline
    all_goals rwa [hturn f, ← hturn g] at h

/-- The lines of a file. -/
theorem runLines_of_extends (hfg : Extends f g) {suppress : Bool} {file : FileRun}
    {lines : List String} {x : Outcome × Session σ}
    (h : runLines r f suppress file lines s = some x) :
    runLines r g suppress file lines s = some x := by
  rw [runLines_eq] at h ⊢
  obtain ⟨y, hturns, rfl⟩ := Option.map_eq_some_iff.mp h
  suffices hmore : turns r g suppress file lines s = some y by
    rw [hmore]
    rfl
  clear h
  induction lines generalizing suppress file s with
  | nil => exact hturns
  | cons text rest ih =>
    rw [turns_cons] at hturns ⊢
    rcases hturn : turn r f suppress file text s with
      _ | ⟨suppress', file', t⟩ | ⟨outcome, file', t⟩
    · rw [hturn] at hturns
      cases hturns
    · rw [hturn] at hturns
      rw [turn_of_extends hfg hturn]
      exact ih hturns
    · rw [hturn] at hturns
      rw [turn_of_extends hfg hturn]
      exact hturns

/-- A file that has been looked for. -/
theorem runFound_of_extends (hfg : Extends f g) {name path : String} {store : Store}
    {x : Outcome × Session σ} (h : runFound r f name path store s = some x) :
    runFound r g name path store s = some x := by
  rw [runFound] at h ⊢
  split_ifs at h ⊢
  · cases htext : r.around.readText path s.world with
    | ok text =>
      rw [htext] at h
      exact runLines_of_extends hfg h
    | error fault =>
      rw [htext] at h
      exact h
  · exact h

/-- With one more file inside each other, files have the results they had. -/
theorem extends_succ (r : Runner σ) (depth : Nat) :
    Extends (runFile r depth) (runFile r (depth + 1)) := by
  induction depth with
  | zero =>
    intro name store s x h
    cases h
  | succ depth ih =>
    intro name store s x h
    rw [runFile_succ] at h ⊢
    obtain ⟨y, hfound, rfl⟩ := Option.map_eq_some_iff.mp h
    rw [runFound_of_extends ih hfound]
    rfl

/-- With a larger bound, files have the results they had. -/
theorem extends_of_le (r : Runner σ) {depth deeper : Nat} (hle : depth ≤ deeper) :
    Extends (runFile r depth) (runFile r deeper) := by
  induction hle with
  | refl => exact fun _ _ _ _ h => h
  | step _ ih => exact fun _ _ _ _ h => extends_succ r _ (ih h)

/-- **A call that has a result has the same with every larger bound.** -/
theorem Call.run_of_deeper {call : Call} {depth deeper : Nat} {x : Outcome × Session σ}
    (hle : depth ≤ deeper) (h : call.run r depth s = some x) : call.run r deeper s = some x := by
  have hfg := extends_of_le r hle
  cases call with
  | script name text store =>
    rw [Call.run] at h ⊢
    obtain ⟨y, hrun, rfl⟩ := Option.map_eq_some_iff.mp h
    have hmore : (Place.start deeper name store text { s with mode := .fileRun }).run r = some y :=
      runLines_of_extends hfg hrun
    rw [hmore]
    rfl
  | line text =>
    cases hline : (Call.line text).line? r s with
    | some line =>
      rw [Call.run_of_line hline] at h ⊢
      obtain ⟨y, hperform, rfl⟩ := Option.map_eq_some_iff.mp h
      rw [perform_of_extends hfg hperform]
      rfl
    | none =>
      obtain ⟨t, hrun⟩ := Call.run_of_not_line hline
      rwa [hrun depth, ← hrun deeper] at h

/-- **A call has a result exactly if it comes to no place that is never left,** and then it has the
same one however deep files may run inside each other. -/
theorem Call.exists_result_iff {call : Call} {depth : Nat} :
    (∃ outcome t, ∀ deeper, depth ≤ deeper → call.run r deeper s = some (outcome, t)) ↔
      ¬call.Hangs r depth s ∧ ∀ names q, call.Comes r depth s names q → ¬Run.Hangs r q := by
  have hends : call.run r depth s ≠ none ↔
      ¬call.Hangs r depth s ∧ ∀ names q, call.Comes r depth s names q → ¬Run.Hangs r q := by
    rw [Ne, Call.run_eq_none_iff, not_or]
    simp only [not_exists, not_and]
  rw [← hends, Option.ne_none_iff_exists']
  constructor
  · rintro ⟨outcome, t, h⟩
    exact ⟨_, h depth le_rfl⟩
  · rintro ⟨⟨outcome, t⟩, h⟩
    exact ⟨outcome, t, fun deeper hle => Call.run_of_deeper hle h⟩

end Extending

end ScriptedShell.Run
