/-
# The places that a run comes to

Files run other files, to any depth, so that a run is more than a list of lines.  A place is a
moment at which the next line of a file comes up, with the files around it; `Comes` says which
places a run comes to from a place, and through which files.  A run that does not end, since a line
that was sent is never answered or since files run each other for ever, has no result, but it comes
to places all the same, and the trace there is what it has done so far: what is proved of places is
true of every run, also of one that does not end.

What a line and a file do to a session can be told from what single lines do, by one induction
(`Carried`), and this also tells what has happened on the way to a place (`Carried.comes`).
-/
import Mathlib
import ScriptedShell.Proofs.Run.Turns

namespace ScriptedShell.Run

open Command Variable Text

variable {σ : Type}

/-! ## Places -/

/-- A moment of a run at which the next line of a file comes up. -/
structure Place (σ : Type) where
  /-- How many more files can run inside each other here. -/
  depth : Nat
  suppress : Bool
  file : FileRun
  /-- The lines of the file that are left. -/
  lines : List String
  session : Session σ

namespace Place

/-- The place at the beginning of a file. -/
def start (depth : Nat) (name : String) (store : Store) (text : String) (s : Session σ) :
    Place σ := ⟨depth, false, { name, store }, scriptLines text, s⟩

/-- What the line that comes up does. -/
def turn (p : Place σ) (r : Runner σ) : Option (Turn σ) :=
  match p.lines with
  | [] => none
  | text :: _ => Run.turn r (runFile r p.depth) p.suppress p.file text p.session

/-- The line that comes up, if it is dispatched. -/
def line? (p : Place σ) (r : Runner σ) : Option Line :=
  match p.lines with
  | [] => none
  | text :: _ => lineAt? r p.suppress p.file text p.session

/-- The place of the next line of the file, if the run goes on to it. -/
def next? (p : Place σ) (r : Runner σ) : Option (Place σ) :=
  match p.turn r with
  | some (.on suppress file session) =>
    some { p with suppress, file, lines := p.lines.tail, session }
  | _ => none

/-- The run of the file from the place on. -/
def run (p : Place σ) (r : Runner σ) : Option (Outcome × Session σ) :=
  runLines r (runFile r p.depth) p.suppress p.file p.lines p.session

end Place

section Steps

variable {r : Runner σ} {p q : Place σ}

/-- A line that is dispatched at a place is carried out there. -/
theorem Place.turn_of_line {line : Line} (h : p.line? r = some line) :
    p.turn r = (perform r (runFile r p.depth) line (some p.file) (carrying r line p.session)).map
      (.ofDispatch line p.file) := by
  obtain ⟨depth, suppress, file, _ | ⟨text, lines⟩, s⟩ := p
  · cases h
  · exact turn_of_lineAt h

/-- The run of a file ends after its last line. -/
theorem Place.run_of_nil (h : p.lines = []) : p.run r = some (.next, p.session) := by
  rw [Place.run, h]
  rfl

/-- The run of a file has no result if a line of it has none. -/
theorem Place.run_of_turn_eq_none {text : String} {lines : List String}
    (hlines : p.lines = text :: lines) (h : p.turn r = none) : p.run r = none := by
  rw [Place.turn, hlines] at h
  dsimp only at h
  rw [Place.run, hlines, runLines_eq, turns_cons, h]
  rfl

/-- The run of a file ends at a place at which a line ends it. -/
theorem Place.run_of_stop {outcome : Outcome} {file : FileRun} {t : Session σ}
    (h : p.turn r = some (.stop outcome file t)) : p.run r = some (outcome, t) := by
  obtain ⟨depth, suppress, file', _ | ⟨text, lines⟩, s⟩ := p
  · cases h
  · change Run.turn r (runFile r depth) suppress file' text s = _ at h
    rw [Place.run, runLines_eq, turns_cons, h]
    rfl

/-- The outcome of a line that ends the run stops it. -/
theorem Place.canContinue_of_stop {outcome : Outcome} {file : FileRun} {t : Session σ}
    (h : p.turn r = some (.stop outcome file t)) : outcome.canContinue = false := by
  obtain ⟨depth, suppress, file', _ | ⟨text, lines⟩, s⟩ := p
  · cases h
  · exact canContinue_of_turn_stop h

/-- The run goes on to the next line after a line that lets it. -/
theorem Place.next?_of_turn {suppress : Bool} {file : FileRun} {session : Session σ}
    (h : p.turn r = some (.on suppress file session)) :
    p.next? r = some { p with suppress, file, lines := p.lines.tail, session } := by
  rw [Place.next?, h]

/-- The run of a file goes on from the place of its next line. -/
theorem Place.run_of_next (h : p.next? r = some q) : p.run r = q.run r := by
  obtain ⟨depth, suppress, file, _ | ⟨text, lines⟩, s⟩ := p
  · cases h
  · rw [Place.next?] at h
    split at h
    · next hturn =>
      cases h
      change Run.turn r (runFile r depth) suppress file text s = _ at hturn
      rw [Place.run, Place.run, runLines_eq, runLines_eq, turns_cons, hturn]
      rfl
    · cases h

end Steps

/-! ## Coming to places -/

/-- Whether a line that runs files, carried out with a bound on how many files run inside each
other, comes to the beginning of a file with a name: the files before it on the line have run and
let the run go on, and it is there and can be read. -/
inductive Opens (r : Runner σ) (line : Line) (s : Session σ) : Nat → String → Place σ → Prop
  | file {depth : Nat} {before after : List String} {name text : String} {outcome : Outcome}
      {t : Session σ} :
      filesOf line = before ++ name :: after →
      importEach (runFile r (depth + 1)) line.store .next before { s with mode := .fileRun } =
        some (outcome, t) →
      outcome.canContinue = true →
      r.around.copier.isFile (Files.Path.join (r.around.currentDirectory t.world) name) t.world →
      r.around.readText (Files.Path.join (r.around.currentDirectory t.world) name) t.world =
        .ok text →
      Opens r line s (depth + 1) name (.start depth name line.store text (begun name line.store t))

/-- A line that runs files comes to the first of them. -/
theorem Opens.first {r : Runner σ} {line : Line} {s : Session σ} {depth : Nat}
    {name text : String} {after : List String} (hfiles : filesOf line = name :: after)
    (hfile : r.around.copier.isFile (Files.Path.join (r.around.currentDirectory s.world) name)
      s.world)
    (htext : r.around.readText (Files.Path.join (r.around.currentDirectory s.world) name) s.world =
      .ok text) :
    Opens r line s (depth + 1) name
      (.start depth name line.store text (begun name line.store { s with mode := .fileRun })) := by
  have hfirst : filesOf line = [] ++ name :: after := hfiles
  exact .file hfirst rfl rfl hfile htext

/-- Whether a run comes from one place to another, through files that lead from the first to the
second, the innermost one first. -/
inductive Comes (r : Runner σ) : Place σ → List String → Place σ → Prop
  | here (p : Place σ) : Comes r p [] p
  /-- To the next line of the file and on. -/
  | next {p q z : Place σ} {names : List String} :
      p.next? r = some q → Comes r q names z → Comes r p names z
  /-- Into a file that the line runs, and on. -/
  | enter {p q z : Place σ} {line : Line} {name : String} {names : List String} :
      p.line? r = some line → line.keyword = .run →
      Opens r line (carrying r line p.session) p.depth name q → Comes r q names z →
      Comes r p (names ++ [name]) z

/-! ## Calls -/

/-- What a run is asked to do from outside. -/
inductive Call where
  /-- To run a line that the user has typed. -/
  | line (text : String)
  /-- To run text as if it were a file. -/
  | script (name text : String) (store : Store)

namespace Call

/-- The line that a call dispatches by itself, if it does. -/
def line? (r : Runner σ) (s : Session σ) : Call → Option Line
  | .line text =>
    let line := resolveLine r.policies (.parse r.policies text) [s.store]
    if isBlankText text || line.isBlank || line.isComment then none else some line
  | .script .. => none

/-- The mode in which a call leaves the session. -/
def modeAfter (s : Session σ) : Call → Mode
  | .line _ => .userInput
  | .script .. => s.mode

/-- The session in which the line of a call is carried out. -/
def carrying (r : Runner σ) (line : Line) (s : Session σ) : Session σ :=
  (Session.pause { s with mode := .userInput } r .dispatching).note [.dispatched line]

/-- A call, carried out with a bound on how many files run inside each other. -/
def run (r : Runner σ) (depth : Nat) (s : Session σ) : Call → Option (Outcome × Session σ)
  | .line text =>
    if isBlankText text then some (.next, s)
    else
      let line := resolveLine r.policies (.parse r.policies text) [s.store]
      (dispatch r (runFile r depth) line none { s with mode := .userInput }).map
        fun (outcome, _, t) => (outcome, t.refresh r)
  | .script name text store =>
    ((Place.start depth name store text { s with mode := .fileRun }).run r).map
      fun (outcome, t) => (outcome, { t with mode := s.mode }.refresh r)

/-- Running a typed line is a call. -/
theorem run_line (r : Runner σ) (text : String) (s : Session σ) :
    r.runLine text s = (Call.line text).run r maxDepth s := by
  rw [Runner.runLine, run]
  split_ifs
  · rfl
  · dsimp only
    rcases dispatch r (runFile r maxDepth)
      (resolveLine r.policies (.parse r.policies text) [s.store]) none { s with mode := .userInput }
      with _ | ⟨outcome, after, t⟩
    · rfl
    · rfl

/-- Running a script is a call. -/
theorem run_script (r : Runner σ) (name text : String) (store : Store) (s : Session σ) :
    r.runScript name text store s = (Call.script name text store).run r maxDepth s := by
  rw [Runner.runScript, run, Place.run, Place.start]
  dsimp only
  rcases runLines r (runFile r maxDepth) false { name, store } (scriptLines text)
    { s with mode := .fileRun } with _ | ⟨outcome, t⟩
  · rfl
  · rfl

/-- What comes of a call. -/
def result (r : Runner σ) (s : Session σ) : Call → Option (Outcome × Session σ)
  | .line text => r.runLine text s
  | .script name text store => r.runScript name text store s

/-- What comes of a call is its run with the bound of the program. -/
theorem result_eq (r : Runner σ) (s : Session σ) (call : Call) :
    call.result r s = call.run r maxDepth s := by
  cases call with
  | line text => exact run_line r text s
  | script name text store => exact run_script r name text store s

/-- Whether a call comes to a place, through files of which the innermost one is the first. -/
inductive Comes (r : Runner σ) (depth : Nat) (s : Session σ) :
    Call → List String → Place σ → Prop
  | line {text name : String} {line : Line} {names : List String} {p q : Place σ} :
      (Call.line text).line? r s = some line → line.keyword = .run →
      Opens r line (carrying r line s) depth name p → Run.Comes r p names q →
      Comes r depth s (.line text) (names ++ [name]) q
  | script {name text : String} {store : Store} {names : List String} {q : Place σ} :
      Run.Comes r (.start depth name store text { s with mode := .fileRun }) names q →
      Comes r depth s (.script name text store) names q

/-- A typed line that is dispatched is carried out. -/
theorem run_of_line {r : Runner σ} {depth : Nat} {s : Session σ} {text : String} {line : Line}
    (h : (Call.line text).line? r s = some line) :
    (Call.line text).run r depth s =
      (perform r (runFile r depth) line none (carrying r line s)).map
        fun (outcome, _, t) => (outcome, t.refresh r) := by
  rw [line?] at h
  split_ifs at h with hno
  simp only [Bool.or_eq_true, not_or, Bool.not_eq_true] at hno
  obtain ⟨⟨hblank, hempty⟩, hcomment⟩ := hno
  obtain rfl := Option.some.inj h
  simp [run, hblank, dispatch, hempty, hcomment, carrying]

end Call

/-! ## What has been since -/

/-- Whether something of one kind has been, and since then only things of another kind. -/
def Since {α : Type} (P Q : α → Prop) (history : List α) : Prop :=
  ∃ before x since, history = before ++ x :: since ∧ P x ∧ ∀ y ∈ since, Q y

/-- Nothing has been at the beginning. -/
theorem not_since_nil {α : Type} {P Q : α → Prop} : ¬Since P Q [] := by
  rintro ⟨before, x, since, hnil, -⟩
  exact List.append_ne_nil_of_right_ne_nil before (List.cons_ne_nil x since) hnil.symm

/-- What has been after one more thing. -/
theorem since_concat {α : Type} {P Q : α → Prop} {history : List α} {y : α} :
    Since P Q (history ++ [y]) ↔ P y ∨ (Since P Q history ∧ Q y) := by
  constructor
  · rintro ⟨before, x, since, heq, hx, hsince⟩
    -- the last thing is the one that has been, or has come after it
    rcases List.eq_nil_or_concat since with rfl | ⟨since, last, rfl⟩
    · obtain ⟨-, hlast⟩ := List.append_inj' heq rfl
      obtain rfl : y = x := by simpa using hlast
      exact .inl hx
    · rw [List.concat_eq_append] at heq hsince
      rw [← List.cons_append, ← List.append_assoc] at heq
      obtain ⟨rfl, hlast⟩ := List.append_inj' heq rfl
      obtain rfl : y = last := by simpa using hlast
      exact .inr ⟨⟨before, x, since, rfl, hx,
        fun z hz => hsince z (List.mem_append_left _ hz)⟩, hsince y (by simp)⟩
  · rintro (hy | ⟨⟨before, x, since, rfl, hx, hsince⟩, hy⟩)
    · exact ⟨history, y, [], rfl, hy, by simp⟩
    · have hall := List.forall_mem_append.mpr ⟨hsince, List.forall_mem_singleton.mpr hy⟩
      exact ⟨before, x, since ++ [y], by simp, hx, hall⟩

/-! ## What is carried from lines to runs -/

/-- Whether a relation of the sessions before and after a part of a run, and of whether the run
goes on after it, holds of all parts of a run once it holds of its single lines. -/
structure Carried (r : Runner σ) (R : Bool → Session σ → Session σ → Prop) : Prop where
  refl : ∀ s, R true s s
  /-- Only a part after which the run goes on is followed by another. -/
  trans : ∀ {goes s t u}, R true s t → R goes t u → R goes s u
  weaken : ∀ {s t}, R true s t → R false s t
  /-- Also a run that has stopped says which files it leaves. -/
  say : ∀ {goes} {s t : Session σ} (text : String), R goes s t → R goes s (t.say text)
  /-- Only the remote session, the variables and the start count. -/
  remote : ∀ {goes} {s t u : Session σ}, u.remote = t.remote → u.store = t.store →
    u.startPath = t.startPath → R goes s t → R goes s u
  started : ∀ (s : Session σ) (name : String) (store : Store),
    R true s (s.note [.started name store])
  /-- The host may deliver before a line is dispatched. -/
  pause : ∀ s : Session σ, R true s (s.pause r .dispatching)
  /-- A line that runs files is noted before they run. -/
  runs : ∀ (s : Session σ) (line : Line), line.keyword = .run →
    R true s (s.note [.dispatched line])
  /-- A line that runs no files is noted and carried out. -/
  perform : ∀ {runFile : FileRunner σ} {line : Line} {file after : Option FileRun}
    {s t : Session σ} {outcome : Outcome}, IsRead r line → line.keyword ≠ .run →
      perform r runFile line file (s.note [.dispatched line]) = some (outcome, after, t) →
        R outcome.canContinue s t

namespace Carried

variable {r : Runner σ} {R : Bool → Session σ → Session σ → Prop} {runFile : FileRunner σ}
  {s t : Session σ} {outcome : Outcome}

/-- Whether running files keeps to a relation. -/
def Files (R : Bool → Session σ → Session σ → Prop) (runFile : FileRunner σ) : Prop :=
  ∀ {name : String} {store : Store} {s t : Session σ} {outcome : Outcome},
    runFile name store s = some (outcome, t) → R outcome.canContinue s t

/-- The mode does not count. -/
theorem withMode (hR : Carried r R) {goes : Bool} (mode : Mode) (h : R goes s t) :
    R goes s { t with mode := mode } := hR.remote (t := t) rfl rfl rfl h

/-- Running files one after the other. -/
theorem importEach (hR : Carried r R) (hfiles : Files R runFile) {store : Store}
    {names : List String} {last : Outcome} (hlast : last.canContinue = true)
    (h : importEach runFile store last names s = some (outcome, t)) :
    R outcome.canContinue s t := by
  induction names generalizing last s with
  | nil =>
    cases h
    rw [hlast]
    exact hR.refl _
  | cons name names ih =>
    rw [Run.importEach] at h
    rcases hfile : runFile name store s with _ | ⟨outcome', u⟩
    · rw [hfile] at h
      cases h
    · rw [hfile] at h
      dsimp only at h
      have hfirst : R outcome'.canContinue s u := hfiles hfile
      -- a file after which the run does not go on is the last one
      split_ifs at h with hgoes
      · rw [hgoes] at hfirst
        exact hR.trans hfirst (ih hgoes h)
      · cases h
        exact hfirst

/-- Carrying out a line that has just been noted. -/
theorem performed (hR : Carried r R) (hfiles : Files R runFile) {line : Line}
    {file after : Option FileRun} (hread : IsRead r line)
    (h : Run.perform r runFile line file (s.note [.dispatched line]) =
      some (outcome, after, t)) : R outcome.canContinue s t := by
  by_cases hrun : line.keyword = .run
  · have hnoted := hR.runs s line hrun
    rw [Run.perform, hrun] at h
    obtain ⟨⟨outcome', u⟩, himported, hkept⟩ := Option.map_eq_some_iff.mp h
    cases hkept
    rw [importFiles] at himported
    split_ifs at himported
    · cases himported
      exact hR.say _ hnoted
    · rcases heach : Run.importEach runFile line.store .next (filesOf line)
        { s.note [.dispatched line] with mode := .fileRun } with _ | ⟨outcome', v⟩
      · rw [heach] at himported
        cases himported
      · rw [heach] at himported
        cases himported
        -- the mode changes around the files, which does not count
        have hentered := hR.withMode .fileRun hnoted
        exact hR.withMode s.mode (hR.trans hentered (hR.importEach hfiles rfl heach))
  · exact hR.perform hread hrun h

/-- One turn of a file run. -/
theorem turn (hR : Carried r R) (hfiles : Files R runFile) {suppress : Bool} {file : FileRun}
    {text : String} {x : Turn σ} (h : Run.turn r runFile suppress file text s = some x) :
    R x.result.1.canContinue s x.result.2 := by
  obtain ⟨-, later, u, rfl, hu⟩ | ⟨key, -, -, rfl⟩ | ⟨line, done, hline, hdone, rfl⟩ :=
    turn_cases h
  · rcases hu with rfl | ⟨shown, rfl⟩
    · exact hR.refl _
    · exact hR.say shown (hR.refl s)
  · exact hR.weaken (hR.say _ (hR.refl s))
  · -- a line that is dispatched has been shown before
    obtain ⟨outcome, after, u⟩ := done
    have hshown : R true s (s.say ("> " ++ line.masked)) := hR.say _ (hR.refl s)
    have hperformed := hR.trans (hR.trans hshown (hR.pause _))
      (hR.performed hfiles (isRead_of_lineAt hline) hdone)
    rw [Turn.ofDispatch]
    dsimp only
    split_ifs with hgoes
    · rw [hgoes] at hperformed
      exact hperformed
    · exact hperformed

/-- The turns of a file run. -/
theorem turns (hR : Carried r R) (hfiles : Files R runFile) {suppress : Bool} {file : FileRun}
    {lines : List String} {x : Turn σ}
    (h : Run.turns r runFile suppress file lines s = some x) :
    R x.result.1.canContinue s x.result.2 := by
  induction lines generalizing suppress file s with
  | nil =>
    cases h
    exact hR.refl s
  | cons text rest ih =>
    rw [turns_cons] at h
    rcases hturn : Run.turn r runFile suppress file text s with
      _ | ⟨suppress', file', u⟩ | ⟨outcome, file', u⟩
    · rw [hturn] at h
      cases h
    · rw [hturn] at h
      exact hR.trans (hR.turn hfiles hturn) (ih h)
    · rw [hturn] at h
      cases h
      exact hR.turn hfiles hturn

/-- The lines of a file. -/
theorem runLines (hR : Carried r R) (hfiles : Files R runFile) {suppress : Bool} {file : FileRun}
    {lines : List String} (h : Run.runLines r runFile suppress file lines s = some (outcome, t)) :
    R outcome.canContinue s t := by
  rw [runLines_eq] at h
  obtain ⟨x, hturns, hx⟩ := Option.map_eq_some_iff.mp h
  have hcarried := hR.turns hfiles hturns
  rwa [hx] at hcarried

/-- The beginning of a file. -/
theorem begun (hR : Carried r R) (name : String) (store : Store) (s : Session σ) :
    R true s (begun name store s) := hR.say _ (hR.started s name store)

/-- A file that has been looked for. -/
theorem runFound (hR : Carried r R) (hfiles : Files R runFile) {name path : String} {store : Store}
    (h : Run.runFound r runFile name path store s = some (outcome, t)) :
    R outcome.canContinue s t := by
  rw [Run.runFound] at h
  split_ifs at h
  · split at h
    · exact hR.runLines hfiles h
    · cases h
      exact hR.say _ (hR.refl _)
  · cases h
    exact hR.say _ (hR.refl _)

/-- **Files keep to what their lines keep to,** however deep they run inside each other. -/
theorem files (hR : Carried r R) (depth : Nat) : Files R (Run.runFile r depth) := by
  induction depth with
  | zero =>
    intro name store s t outcome h
    cases h
  | succ depth ih =>
    intro name store s t outcome h
    rw [runFile_succ] at h
    obtain ⟨⟨outcome', u⟩, hfound, hfinished⟩ := Option.map_eq_some_iff.mp h
    cases hfinished
    have hbegun : R true s (Run.begun name store s) := hR.begun name store s
    exact hR.say ("Finish run file " ++ name) (hR.trans hbegun (hR.runFound ih hfound))

/-- What has happened before a file that a line runs. -/
theorem opens (hR : Carried r R) {line : Line} {depth : Nat} {name : String} {p : Place σ}
    (h : Opens r line s depth name p) : R true s p.session := by
  cases h with
  | @file depth before after name text outcome t hfiles heach hgoes =>
    have hentered := hR.withMode .fileRun (hR.refl s)
    have hbefore := hR.importEach (hR.files _) rfl heach
    rw [hgoes] at hbefore
    exact hR.trans (hR.trans hentered hbefore) (hR.begun name line.store t)

/-- **What has happened on the way to a place.** -/
theorem comes (hR : Carried r R) {p q : Place σ} {names : List String} (h : Comes r p names q) :
    R true p.session q.session := by
  induction h with
  | here p => exact hR.refl p.session
  | @next p q z names hnext _ ih =>
    rw [Place.next?] at hnext
    split at hnext
    · next suppress file t hturn =>
      cases hnext
      obtain ⟨depth, suppress', file', _ | ⟨text, lines⟩, s⟩ := p
      · cases hturn
      · exact hR.trans (hR.turn (hR.files depth) hturn) ih
    · cases hnext
  | @enter p q z line name names hline hrun hopens _ ih =>
    have hshown : R true p.session (p.session.say ("> " ++ line.masked)) :=
      hR.say _ (hR.refl p.session)
    have hcarrying := hR.trans (hR.trans hshown (hR.pause _)) (hR.runs _ line hrun)
    exact hR.trans hcarrying (hR.trans (hR.opens hopens) ih)

/-- What has happened on the way to a place from the beginning of a call. -/
theorem call_comes (hR : Carried r R) {depth : Nat} {call : Call} {names : List String}
    {p : Place σ} (h : call.Comes r depth s names p) : R true s p.session := by
  cases h with
  | @line text name line names p' _ hline hrun hopens hcomes =>
    have hentered := hR.withMode .userInput (hR.refl s)
    have hcarrying := hR.trans (hR.trans hentered (hR.pause _)) (hR.runs _ line hrun)
    exact hR.trans hcarrying (hR.trans (hR.opens hopens) (hR.comes hcomes))
  | script hcomes =>
    have hentered := hR.withMode .fileRun (hR.refl s)
    exact hR.trans hentered (hR.comes hcomes)

/-- **Calls keep to what their lines keep to.** -/
theorem call_run (hR : Carried r R) {depth : Nat} {call : Call}
    (h : call.run r depth s = some (outcome, t)) : R outcome.canContinue s t := by
  cases call with
  | line text =>
    have hentered := hR.withMode .userInput (hR.refl s)
    rw [Call.run] at h
    split_ifs at h
    · cases h
      exact hR.refl _
    · obtain ⟨⟨outcome', after, u⟩, hdispatched, hdone⟩ := Option.map_eq_some_iff.mp h
      cases hdone
      rw [dispatch] at hdispatched
      split_ifs at hdispatched
      · cases hdispatched
        exact hR.remote (t := { s with mode := .userInput }) rfl rfl rfl hentered
      · have hread := isRead_resolveLine r text [s.store]
        have hdone := hR.trans (hR.trans hentered (hR.pause _))
          (hR.performed (hR.files depth) hread hdispatched)
        exact hR.remote (t := u) rfl rfl rfl hdone
  | script name text store =>
    have hentered := hR.withMode .fileRun (hR.refl s)
    rw [Call.run] at h
    obtain ⟨⟨outcome', u⟩, hran, hdone⟩ := Option.map_eq_some_iff.mp h
    cases hdone
    exact hR.remote (t := u) rfl rfl rfl (hR.trans hentered (hR.runLines (hR.files depth) hran))

end Carried

/-! ## Files in a table -/

/-- A runner with a host, with files that a table lists by their names, and with a local shell that
answers nothing. -/
def tableRunner (host : Remote.Host Unit) (files : List (String × String)) : Runner Unit where
  settings := {}
  width := 80
  around :=
    { host
      copier :=
        { upload := fun _ _ _ w => { world := w }
          download := fun _ _ _ w => { world := w }
          isFile := fun path _ => (files.lookup path).isSome
          removeFile := fun _ w => .ok w }
      currentDirectory := fun _ => ""
      invoke := fun script w => { result := { script, code := some 0 }, world := w }
      readText := fun path _ => (files.lookup path).elim (.error .missing) .ok }

/-- A host from which nothing ever comes. -/
def silentHost : Remote.Host Unit where
  openShell _ _ _ w := { world := w }
  write _ _ w := { world := w }
  flush _ w := { world := w }
  close _ w := { world := w }
  await _ w := .nothing w
  pause _ w := ([], w)

end ScriptedShell.Run
