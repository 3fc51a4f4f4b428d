/-
# The turns of a file run

At each of its lines the run of a file either goes on or ends.  `turn` says which, and what the
line has done; `turns` goes through lines up to the first that ends the run.  A file run is made of
its turns (`runLines_eq`), and what it has done after some lines does not depend on the lines that
come later (`turns_append`).  There are three ways in which a turn goes (`turn_cases`): the line is
passed over, a required variable is missing, or the line is dispatched.
-/
import Mathlib
import ScriptedShell.Run.Dispatch

namespace ScriptedShell.Run

open Command Variable Text

variable {σ : Type}

/-! ## One line -/

/-- What becomes of the run of a file at one of its lines. -/
inductive Turn (σ : Type) where
  /-- It goes on with the next line, which may be passed over. -/
  | on (suppress : Bool) (file : FileRun) (s : Session σ)
  /-- It ends. -/
  | stop (outcome : Outcome) (file : FileRun) (s : Session σ)

namespace Turn

/-- How the run ends when no line is left after the turn. -/
def result : Turn σ → Outcome × Session σ
  | .on _ _ s => (.next, s)
  | .stop outcome _ s => (outcome, s)

@[simp] theorem result_on (suppress : Bool) (file : FileRun) (s : Session σ) :
    (Turn.on suppress file s).result = (.next, s) := rfl

@[simp] theorem result_stop (outcome : Outcome) (file : FileRun) (s : Session σ) :
    (Turn.stop outcome file s).result = (outcome, s) := rfl

/-- The turn at a line that has been dispatched. -/
def ofDispatch (line : Line) (file : FileRun)
    (done : Outcome × Option FileRun × Session σ) : Turn σ :=
  if done.1.canContinue then
    .on (line.keyword = .ifExist && !done.1.isTrue) (done.2.1.getD file) done.2.2
  else .stop done.1 (done.2.1.getD file) done.2.2

end Turn

section Turns

variable (r : Runner σ) (runFile : FileRunner σ)

/-- What a line of a file does. -/
def turn (suppress : Bool) (file : FileRun) (text : String) (s : Session σ) : Option (Turn σ) :=
  if isBlankText text then some (.on suppress file (if s.echo && !suppress then s.say "" else s))
  else
    let line := readLine r file s text
    match file.missing? (layersOf file s) with
    | some key => some (.stop .halt file (s.say (Failure.variableMissing key).message))
    | none =>
      if suppress then some (.on (line.keyword != .endIf) file s)
      else (dispatch r runFile line (some file) (announce line s)).map (.ofDispatch line file)

/-- What lines of a file do, up to the first that ends the run. -/
def turns : Bool → FileRun → List String → Session σ → Option (Turn σ)
  | suppress, file, [], s => some (.on suppress file s)
  | suppress, file, text :: rest, s =>
    match turn r runFile suppress file text s with
    | some (.on suppress file s) => turns suppress file rest s
    | ended => ended

/-- The line that a line of a file is dispatched as, if it is: it is not passed over, no required
variable is missing, and with its references resolved it is neither blank nor a comment. -/
def lineAt? (suppress : Bool) (file : FileRun) (text : String) (s : Session σ) : Option Line :=
  let line := readLine r file s text
  if isBlankText text || suppress || (file.missing? (layersOf file s)).isSome || line.isBlank ||
    line.isComment then none
  else some line

/-- Whether a line has been read under the policies of the runner. -/
def IsRead (line : Line) : Prop := ∃ text, line = .parse r.policies text

/-- The session in which a line of a file is carried out: it has been shown, and then more may have
come in. -/
def carrying (line : Line) (s : Session σ) : Session σ :=
  ((s.say ("> " ++ line.masked)).pause r .dispatching).note [.dispatched line]

end Turns

section Lemmas

variable {r : Runner σ} {runFile : FileRunner σ} {suppress : Bool} {file : FileRun}
  {text : String} {s : Session σ}

/-- A line with its references resolved has been read. -/
theorem isRead_resolveLine (r : Runner σ) (text : String) (layers : List Store) :
    IsRead r (resolveLine r.policies (.parse r.policies text) layers) := by
  rw [resolveLine]
  split_ifs
  · exact ⟨text, rfl⟩
  · exact ⟨_, rfl⟩

/-- A line of a file that is dispatched has been read. -/
theorem isRead_of_lineAt {line : Line} (h : lineAt? r suppress file text s = some line) :
    IsRead r line := by
  rw [lineAt?] at h
  split_ifs at h
  obtain rfl : readLine r file s text = line := Option.some.inj h
  exact isRead_resolveLine r text _

/-- Where a line is dispatched, no required variable is missing. -/
theorem missing_of_lineAt {line : Line} (h : lineAt? r suppress file text s = some line) :
    file.missing? (layersOf file s) = none := by
  rw [lineAt?] at h
  split_ifs at h with hno
  simp_all

/-- A line of a file that is dispatched is carried out. -/
theorem turn_of_lineAt {line : Line} (h : lineAt? r suppress file text s = some line) :
    turn r runFile suppress file text s =
      (perform r runFile line (some file) (carrying r line s)).map (.ofDispatch line file) := by
  rw [lineAt?] at h
  split_ifs at h with hno
  simp only [Bool.or_eq_true, not_or, Bool.not_eq_true, Option.isSome_eq_false_iff,
    Option.isNone_iff_eq_none] at hno
  obtain ⟨⟨⟨⟨hblank, rfl⟩, hmissing⟩, hempty⟩, hcomment⟩ := hno
  obtain rfl : readLine r file s text = line := Option.some.inj h
  simp [turn, hblank, hmissing, dispatch, hempty, hcomment, announce, carrying]

/-- A line of a file that is not dispatched is passed over, or a required variable is missing,
however files are run. -/
theorem turn_of_not_lineAt (h : lineAt? r suppress file text s = none) :
    (∃ later t, (∀ runFile, turn r runFile suppress file text s = some (.on later file t)) ∧
      (t = s ∨ ∃ shown, t = s.say shown)) ∨
    ∃ key, isBlankText text = false ∧ file.missing? (layersOf file s) = some key ∧
      ∀ runFile, turn r runFile suppress file text s =
        some (.stop .halt file (s.say (Failure.variableMissing key).message)) := by
  simp only [turn]
  by_cases hblank : isBlankText text = true
  · simp only [if_pos hblank]
    refine .inl ⟨_, _, fun _ => rfl, ?_⟩
    split_ifs
    · exact .inr ⟨"", rfl⟩
    · exact .inl rfl
  · simp only [if_neg hblank]
    cases hmissing : file.missing? (layersOf file s) with
    | some key => exact .inr ⟨key, by simpa using hblank, rfl, fun _ => rfl⟩
    | none =>
      dsimp only
      by_cases hsuppress : suppress = true
      · simp only [if_pos hsuppress]
        exact .inl ⟨_, _, fun _ => rfl, .inl rfl⟩
      · -- what is left is a comment, or a line of which nothing is left
        have hnothing : ((readLine r file s text).isBlank ||
            (readLine r file s text).isComment) = true := by
          by_contra hsome
          simp_all [lineAt?]
        simp only [if_neg hsuppress, dispatch, if_pos hnothing]
        refine .inl ⟨_, _, fun _ => rfl, ?_⟩
        dsimp only [announce]
        split_ifs
        · exact .inl rfl
        · exact .inr ⟨_, rfl⟩

/-- **The three ways in which a turn goes.** -/
theorem turn_cases {x : Turn σ} (h : turn r runFile suppress file text s = some x) :
    (lineAt? r suppress file text s = none ∧
      ∃ later t, x = .on later file t ∧ (t = s ∨ ∃ shown, t = s.say shown)) ∨
    (∃ key, isBlankText text = false ∧ file.missing? (layersOf file s) = some key ∧
      x = .stop .halt file (s.say (Failure.variableMissing key).message)) ∨
    ∃ line done, lineAt? r suppress file text s = some line ∧
      perform r runFile line (some file) (carrying r line s) = some done ∧
      x = .ofDispatch line file done := by
  cases hline : lineAt? r suppress file text s with
  | some line =>
    rw [turn_of_lineAt hline] at h
    obtain ⟨done, hdone, rfl⟩ := Option.map_eq_some_iff.mp h
    exact .inr (.inr ⟨line, done, rfl, hdone, rfl⟩)
  | none =>
    obtain ⟨later, t, hturn, ht⟩ | ⟨key, hblank, hmissing, hturn⟩ :=
      turn_of_not_lineAt hline
    · rw [hturn] at h
      exact .inl ⟨rfl, later, t, (Option.some.inj h).symm, ht⟩
    · rw [hturn] at h
      exact .inr (.inl ⟨key, hblank, hmissing, (Option.some.inj h).symm⟩)

/-- A turn that ends the run has an outcome that stops it. -/
theorem canContinue_of_turn_stop {outcome : Outcome} {after : FileRun} {t : Session σ}
    (h : turn r runFile suppress file text s = some (.stop outcome after t)) :
    outcome.canContinue = false := by
  obtain ⟨-, later, u, hx, -⟩ | ⟨key, -, -, hx⟩ | ⟨line, done, -, -, hx⟩ := turn_cases h
  · cases hx
  · cases hx
    rfl
  · rw [Turn.ofDispatch] at hx
    split_ifs at hx with hgoes
    cases hx
    simpa using hgoes

/-! ## Lines one after the other -/

/-- **A file run is made of its turns.** -/
theorem runLines_eq (lines : List String) :
    runLines r runFile suppress file lines s =
      (turns r runFile suppress file lines s).map Turn.result := by
  induction lines generalizing suppress file s with
  | nil => rfl
  | cons text rest ih =>
    rw [runLines, turns, turn]
    by_cases hblank : isBlankText text = true
    · rw [if_pos hblank, if_pos hblank]
      exact ih
    · rw [if_neg hblank, if_neg hblank]
      dsimp only
      cases file.missing? (layersOf file s) with
      | some key => rfl
      | none =>
        dsimp only
        by_cases hsuppress : suppress = true
        · rw [if_pos hsuppress, if_pos hsuppress]
          exact ih
        · rw [if_neg hsuppress, if_neg hsuppress]
          -- only a line that is dispatched can end the run by its outcome
          rcases dispatch r runFile (readLine r file s text) (some file)
            (announce (readLine r file s text) s) with _ | ⟨outcome, after, t⟩
          · rfl
          · rw [Option.map_some, Turn.ofDispatch]
            dsimp only
            by_cases hgoes : outcome.canContinue = true
            · rw [if_pos hgoes, if_pos hgoes]
              exact ih
            · rw [if_neg hgoes, if_neg hgoes]
              rfl

/-- What a file run does at its first line and then at the others. -/
theorem turns_cons (rest : List String) :
    turns r runFile suppress file (text :: rest) s =
      match turn r runFile suppress file text s with
      | some (.on suppress file s) => turns r runFile suppress file rest s
      | ended => ended := rfl

/-- What lines have done does not depend on the lines that come later. -/
theorem turns_append (before after : List String) :
    turns r runFile suppress file (before ++ after) s =
      match turns r runFile suppress file before s with
      | some (.on suppress file s) => turns r runFile suppress file after s
      | ended => ended := by
  induction before generalizing suppress file s with
  | nil => rfl
  | cons text before ih =>
    rw [List.cons_append, turns_cons, turns_cons]
    rcases turn r runFile suppress file text s with _ | ⟨suppress', file', t⟩ | ⟨outcome, file', t⟩
    · rfl
    · exact ih
    · rfl

end Lemmas

/-! ## Whole files -/

/-- The session in which a file begins. -/
def begun (name : String) (store : Store) (s : Session σ) : Session σ :=
  (s.note [.started name store]).say ("Start run file " ++ name)

/-- A file is started, looked for, and finished. -/
theorem runFile_succ {r : Runner σ} {depth : Nat} {name : String} {store : Store} {s : Session σ} :
    runFile r (depth + 1) name store s =
      (runFound r (runFile r depth) name
          (Files.Path.join (r.around.currentDirectory s.world) name) store (begun name store s)).map
        fun (outcome, t) => (outcome, t.say ("Finish run file " ++ name)) := rfl

end ScriptedShell.Run
