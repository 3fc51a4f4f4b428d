/-
# Halting

When a line halts, or a required variable is missing, the file stops there; the line that ran the
file stops the file of that line, and so on up to the call.  All that happens on the way is that
each file says that it is finished, the innermost one first (`Comes.run_of_halts`).  Where nothing
halts, a run that ends lets the run around it go on (`Place.next_of_unhalted`), so that a line that
runs files starts all of them, or a place inside them is never left (`importFiles_of_unhalted`).
-/
import Mathlib
import ScriptedShell.Proofs.Run.Ending

namespace ScriptedShell.Run

open Command Variable Text

variable {σ : Type} {r : Runner σ}

/-! ## Places that halt -/

/-- Whether the run halts at a place: a required variable is missing there, which is shown, or the
line that is dispatched there has an outcome that stops the run. -/
inductive Halts (r : Runner σ) (p : Place σ) : Outcome → Session σ → Prop
  | missing {text : String} {lines : List String} {key : String} :
      p.lines = text :: lines → isBlankText text = false →
      p.file.missing? (layersOf p.file p.session) = some key →
      Halts r p .halt (p.session.say (Failure.variableMissing key).message)
  | line {line : Line} {outcome : Outcome} {after : Option FileRun} {t : Session σ} :
      p.line? r = some line →
      perform r (runFile r p.depth) line (some p.file) (carrying r line p.session) =
        some (outcome, after, t) →
      outcome.canContinue = false → Halts r p outcome t

section Halting

variable {p q : Place σ} {outcome : Outcome} {t : Session σ}

/-- An outcome at which the run halts stops it. -/
theorem Halts.canContinue (h : Halts r p outcome t) : outcome.canContinue = false := by
  cases h with
  | missing => rfl
  | line _ _ hstops => exact hstops

/-- Where the run halts, the turn ends it. -/
theorem Halts.turn (h : Halts r p outcome t) : ∃ file, p.turn r = some (.stop outcome file t) := by
  cases h with
  | @missing text lines key hlines hblank hmissing =>
    refine ⟨p.file, ?_⟩
    rw [Place.turn, hlines]
    dsimp only
    rw [Run.turn, if_neg (by simp [hblank])]
    dsimp only
    rw [hmissing]
  | @line line outcome after t hline hperform hstops =>
    refine ⟨after.getD p.file, ?_⟩
    rw [Place.turn_of_line hline, hperform, Option.map_some, Turn.ofDispatch]
    dsimp only
    rw [if_neg (by simp [hstops])]

/-- Where a turn ends the run, it halts. -/
theorem halts_of_turn {file : FileRun} (h : p.turn r = some (.stop outcome file t)) :
    Halts r p outcome t := by
  have hstops := Place.canContinue_of_stop h
  rw [Place.turn] at h
  split at h
  · cases h
  · next text lines hlines =>
    obtain ⟨-, later, u, hx, -⟩ | ⟨key, hblank, hmissing, hx⟩ | ⟨line, done, hline, hdone, hx⟩ :=
      turn_cases h
    · cases hx
    · cases hx
      exact .missing hlines hblank hmissing
    · obtain ⟨outcome', after, u⟩ := done
      rw [Turn.ofDispatch] at hx
      split_ifs at hx
      cases hx
      refine .line ?_ hdone hstops
      rw [Place.line?, hlines]
      exact hline

/-- The run of a file ends at a place that halts. -/
theorem Halts.run (h : Halts r p outcome t) : p.run r = some (outcome, t) := by
  obtain ⟨file, hturn⟩ := h.turn
  exact Place.run_of_stop hturn

end Halting

/-! ## Unwinding -/

/-- The session after files have said that they are finished. -/
def unwound (names : List String) (s : Session σ) : Session σ :=
  s.note (names.map fun name => .shown (.line ("Finish run file " ++ name)))

/-- A file is finished after those inside it. -/
theorem unwound_concat (names : List String) (name : String) (s : Session σ) :
    unwound (names ++ [name]) s = (unwound names s).say ("Finish run file " ++ name) := by
  rw [unwound, List.map_append, unwound, Session.note, Session.note, Session.say, Remote.Session.say,
    Remote.Session.display, Remote.Session.note, Remote.Session.note, Remote.Session.note]
  simp

section Unwinding

variable {runFile : FileRunner σ} {store : Store} {before after : List String} {name : String}
  {last outcome : Outcome} {s t u : Session σ} {line : Line} {depth : Nat} {p q : Place σ}
  {names : List String}

/-- A line that runs files stops with the first of them that stops. -/
theorem importFiles_of_stop (hfiles : filesOf line = before ++ name :: after)
    (hbefore : importEach runFile line.store .next before { s with mode := .fileRun } =
      some (last, t))
    (hgoes : last.canContinue = true) (hfile : runFile name line.store t = some (outcome, u))
    (hstops : outcome.canContinue = false) :
    importFiles runFile line s = some (outcome, { u with mode := s.mode }) := by
  have hsome : ¬(filesOf line).isEmpty = true := by simp [hfiles]
  rw [importFiles, if_neg hsome, hfiles, importEach_append hbefore hgoes, importEach, hfile]
  dsimp only
  rw [if_neg (by simp [hstops])]

/-- A file that stops stops the line that runs it. -/
theorem Opens.importFiles_of_stop (h : Opens r line s depth name p)
    (hrun : p.run r = some (outcome, u)) (hstops : outcome.canContinue = false) :
    importFiles (Run.runFile r depth) line s =
      some (outcome, { u.say ("Finish run file " ++ name) with mode := s.mode }) := by
  cases h with
  | file hfiles hbefore hgoes hfile htext =>
    refine Run.importFiles_of_stop hfiles hbefore hgoes ?_ hstops
    rw [runFile_succ, runFound_text (s := begun name line.store _) hfile htext, hrun]
    rfl

/-- **A place that halts stops all files around it.**  By induction on the way to the place: within
a file the run goes on from place to place, and a file that stops stops the line that runs it. -/
theorem Comes.run_of_halts (h : Comes r p names q) (hhalts : Halts r q outcome t) :
    ∃ mode, p.run r = some (outcome, { unwound names t with mode }) := by
  have hstops := hhalts.canContinue
  induction h with
  | here p =>
    refine ⟨t.mode, ?_⟩
    rw [hhalts.run, unwound, List.map_nil, Session.note, Remote.Session.note, List.append_nil]
  | next hnext _ ih =>
    rw [Place.run_of_next hnext]
    exact ih hhalts
  | @enter p p' q line name names hline hrun hopens _ ih =>
    obtain ⟨mode, hfile⟩ := ih hhalts
    have himported := hopens.importFiles_of_stop hfile hstops
    -- the line that runs the file has its outcome, and so halts where it stands
    have hperform : perform r (Run.runFile r p.depth) line (some p.file) (carrying r line p.session) =
        some (outcome, some p.file,
          { unwound (names ++ [name]) t with mode := (carrying r line p.session).mode }) := by
      rw [perform, hrun]
      dsimp only
      rw [himported, unwound_concat]
      rfl
    exact ⟨_, (Halts.line hline hperform hstops).run⟩

/-- **A place that halts stops the call.** -/
theorem Call.Comes.run_of_halts {call : Call} (h : call.Comes r depth s names p)
    (hhalts : Halts r p outcome t) :
    ∃ location, call.run r depth s =
      some (outcome, { unwound names t with mode := call.modeAfter s, location }) := by
  have hstops := hhalts.canContinue
  cases h with
  | @line text name line names p' _ hline hrun hopens hcomes =>
    obtain ⟨mode, hfile⟩ := hcomes.run_of_halts hhalts
    have himported := hopens.importFiles_of_stop hfile hstops
    rw [Call.run_of_line hline, perform, hrun]
    dsimp only
    rw [himported, unwound_concat]
    exact ⟨_, rfl⟩
  | script hcomes =>
    obtain ⟨mode, hfile⟩ := hcomes.run_of_halts hhalts
    rw [Call.run, hfile]
    exact ⟨_, rfl⟩

end Unwinding

/-! ## Runs in which nothing halts -/

/-- Whether the run halts at none of some places. -/
def Unhalted (r : Runner σ) (Reached : Place σ → Prop) : Prop :=
  ∀ q, Reached q → ∀ outcome t, ¬Halts r q outcome t

/-- Traces only go on. -/
theorem carried_trace (r : Runner σ) :
    Carried r fun _ s t => s.remote.trace <+: t.remote.trace where
  refl s := List.prefix_rfl
  trans h h' := h.trans h'
  weaken h := h
  say text h := h.trans (List.prefix_append _ _)
  remote heq _ _ h := heq ▸ h
  started s name store := List.prefix_append _ _
  pause s := by
    obtain ⟨acts, htrace, -⟩ := (Leaves.pause r s .dispatching).grows
    rw [htrace]
    exact List.prefix_append _ _
  runs s line _ := List.prefix_append _ _
  perform _ hrun h := by
    obtain ⟨acts, htrace, -⟩ := (carriedOut_perform hrun h).grows
    rw [htrace]
    exact (List.prefix_append _ _).trans (List.prefix_append _ _)

section Unhalted

variable {line : Line} {file : Option FileRun} {s t u : Session σ} {depth : Nat} {p : Place σ}
  {name : String} {store : Store} {outcome : Outcome}

/-- **Where nothing halts, a file that ends lets the run go on.**  By induction on its lines. -/
theorem Place.next_of_unhalted (h : Unhalted r fun q => ∃ names, Run.Comes r p names q)
    (hrun : p.run r = some (outcome, t)) : outcome = .next := by
  induction hlines : p.lines generalizing p with
  | nil =>
    rw [Place.run_of_nil hlines] at hrun
    cases hrun
    rfl
  | cons text lines ih =>
    rcases hturn : p.turn r with _ | ⟨suppress, file, u⟩ | ⟨outcome', file, u⟩
    · rw [Place.run_of_turn_eq_none hlines hturn] at hrun
      cases hrun
    · -- the places that the run comes to from the next line are places that it comes to
      have hnext := Place.next?_of_turn hturn
      rw [Place.run_of_next hnext] at hrun
      set p' : Place σ := { p with suppress, file, lines := p.lines.tail, session := u }
      have hinside : Unhalted r fun q => ∃ names, Run.Comes r p' names q := by
        rintro q ⟨names, hq⟩
        exact h q ⟨names, .next hnext hq⟩
      exact ih hinside hrun (congrArg List.tail hlines)
    · exact absurd (halts_of_turn hturn) (h p ⟨[], .here p⟩ outcome' u)

/-- Where nothing halts in a file that a line runs, the file lets the run go on if it ends. -/
theorem next_of_runFile (h : Unhalted r (Inside r line s depth)) {before after : List String}
    (hfiles : filesOf line = before ++ name :: after)
    (hbefore : importEach (runFile r depth) line.store .next before { s with mode := .fileRun } =
      some (.next, t))
    (hfile : runFile r depth name line.store t = some (outcome, u)) : outcome = .next := by
  cases depth with
  | zero => cases hfile
  | succ depth =>
    rw [runFile_succ] at hfile
    obtain ⟨⟨outcome', v⟩, hfound, hdone⟩ := Option.map_eq_some_iff.mp hfile
    cases hdone
    obtain ⟨text, hthere, htext⟩ | ⟨message, hmessage⟩ := runFound_cases r depth name
      (Files.Path.join (r.around.currentDirectory t.world) name) line.store
      (begun name line.store t)
    · have hopens : Opens r line s (depth + 1) name _ := .file hfiles hbefore rfl hthere htext
      rw [runFound_text hthere htext] at hfound
      refine Place.next_of_unhalted ?_ hfound
      rintro q ⟨names, hcomes⟩
      exact h q ⟨name, _, names, hopens, hcomes⟩
    · rw [hmessage] at hfound
      cases hfound
      rfl

/-- The trace of a file run goes on with the start of the file. -/
theorem trace_of_runFile (h : runFile r depth name store s = some (outcome, t)) :
    ∃ acts, t.remote.trace = s.remote.trace ++ .started name store :: acts := by
  cases depth with
  | zero => cases h
  | succ depth =>
    rw [runFile_succ] at h
    obtain ⟨⟨outcome', u⟩, hfound, hfinished⟩ := Option.map_eq_some_iff.mp h
    cases hfinished
    obtain ⟨acts, hacts⟩ :=
      (carried_trace r).runFound (fun h => (carried_trace r).files depth h) hfound
    refine ⟨.shown (.line ("Start run file " ++ name)) :: acts ++
      [.shown (.line ("Finish run file " ++ name))], ?_⟩
    change u.remote.trace ++ [_] = _
    rw [← hacts]
    simp [begun, Session.note, Session.say, Remote.Session.note, Remote.Session.say,
      Remote.Session.display]

/-- Where nothing halts, the files that are left on a line are all started if they end.  By
induction on them; `before` are the files that have run. -/
theorem importEach_of_unhalted (h : Unhalted r (Inside r line s depth))
    {before names : List String} (hfiles : filesOf line = before ++ names)
    (hbefore : importEach (runFile r depth) line.store .next before { s with mode := .fileRun } =
      some (.next, t))
    (heach : importEach (runFile r depth) line.store .next names t = some (outcome, u)) :
    outcome = .next ∧ ∃ acts, u.remote.trace = t.remote.trace ++ acts ∧
      (names.map fun name => .started name line.store).Sublist acts := by
  induction names generalizing before t with
  | nil =>
    cases heach
    exact ⟨rfl, [], (List.append_nil _).symm, .slnil⟩
  | cons name names ih =>
    rw [importEach] at heach
    rcases hfile : runFile r depth name line.store t with _ | ⟨outcome', v⟩
    · rw [hfile] at heach
      cases heach
    · rw [hfile] at heach
      obtain rfl := next_of_runFile h hfiles hbefore hfile
      obtain ⟨acts, htrace⟩ := trace_of_runFile hfile
      -- with this file one more has run, and the rest of the files comes after it
      have hbefore' : importEach (runFile r depth) line.store .next (before ++ [name])
          { s with mode := .fileRun } = some (.next, v) := by
        rw [importEach_append hbefore rfl, importEach, hfile]
        rfl
      obtain ⟨rfl, more, htrace', hstarted⟩ :=
        ih (hfiles.trans (List.append_cons before name names)) hbefore' heach
      refine ⟨rfl, .started name line.store :: acts ++ more, ?_, ?_⟩
      · rw [htrace', htrace, List.append_assoc]
      · exact (hstarted.trans (List.sublist_append_right acts more)).cons_cons _

/-- **Where nothing halts, a line that runs files starts all of them and lets the run go on,** or
else it never comes to its end, since none can be run so deep or a place inside them is never
left. -/
theorem importFiles_of_unhalted (h : Unhalted r (Inside r line s depth)) :
    (∃ t acts, importFiles (runFile r depth) line s = some (.next, t) ∧
      t.remote.trace = s.remote.trace ++ acts ∧
      ((filesOf line).map fun name => .started name line.store).Sublist acts) ∨
    (importFiles (runFile r depth) line s = none ∧
      (depth = 0 ∨ ∃ q, Inside r line s depth q ∧ Hangs r q)) := by
  rcases himported : importFiles (runFile r depth) line s with _ | ⟨outcome, t⟩
  · obtain ⟨-, hzero⟩ | hhangs := (importFiles_eq_none_iff r depth line s).mp himported
    · exact .inr ⟨rfl, .inl hzero⟩
    · exact .inr ⟨rfl, .inr hhangs⟩
  · rw [importFiles] at himported
    split_ifs at himported with hnone
    · cases himported
      refine .inl ⟨_, [.shown (.line "No file to run")], rfl, rfl, ?_⟩
      rw [List.isEmpty_iff.mp hnone]
      exact List.nil_sublist _
    · rcases heach : importEach (runFile r depth) line.store .next (filesOf line)
        { s with mode := .fileRun } with _ | ⟨outcome', u⟩
      · rw [heach] at himported
        cases himported
      · rw [heach] at himported
        cases himported
        have hall : filesOf line = [] ++ filesOf line := rfl
        obtain ⟨rfl, acts, htrace, hstarted⟩ := importEach_of_unhalted h hall rfl heach
        exact .inl ⟨_, acts, rfl, htrace, hstarted⟩

/-- Nothing halts in a file without lines. -/
theorem unhalted_of_no_lines (hlines : p.lines = []) :
    Unhalted r fun q => ∃ names, Comes r p names q := by
  have hturn : p.turn r = none := by rw [Place.turn, hlines]
  have hline : p.line? r = none := by rw [Place.line?, hlines]
  rintro q ⟨names, hcomes⟩ outcome t hhalts
  cases hcomes with
  | here =>
    obtain ⟨file, hstop⟩ := hhalts.turn
    rw [hturn] at hstop
    cases hstop
  | next hnext =>
    rw [Place.next?, hturn] at hnext
    cases hnext
  | enter hline' =>
    rw [hline] at hline'
    cases hline'

/-- **Where nothing halts, a call of a script or of a line that runs files lets the run go on if it
ends.** -/
theorem Call.next_of_unhalted {call : Call}
    (hline : ∀ line, call.line? r s = some line → line.keyword = .run)
    (h : Unhalted r fun q => ∃ names, call.Comes r depth s names q)
    (hrun : call.run r depth s = some (outcome, t)) : outcome = .next := by
  cases call with
  | script name text store =>
    rw [Call.run] at hrun
    obtain ⟨⟨outcome', u⟩, hran, hdone⟩ := Option.map_eq_some_iff.mp hrun
    cases hdone
    refine Place.next_of_unhalted ?_ hran
    rintro q ⟨names, hq⟩
    exact h q ⟨names, .script hq⟩
  | line text =>
    cases hdispatched : (Call.line text).line? r s with
    | none =>
      -- nothing is dispatched, and the call has nothing to do
      obtain ⟨u, hnothing⟩ := Call.run_of_not_line hdispatched
      rw [hnothing] at hrun
      cases hrun
      rfl
    | some line =>
      have hkeyword := hline line hdispatched
      have hinside : Unhalted r (Inside r line (Call.carrying r line s) depth) := fun q hq =>
        h q ((Call.exists_comes_iff_inside hdispatched).mpr ⟨hkeyword, hq⟩)
      rw [Call.run_of_line hdispatched, perform_run hkeyword] at hrun
      obtain ⟨u, acts, himported, -⟩ | ⟨himported, -⟩ := importFiles_of_unhalted hinside
      · rw [himported] at hrun
        cases hrun
        rfl
      · rw [himported] at hrun
        cases hrun

end Unhalted

/-! ## The main statement -/

/-- **Halting unwinds every level, and where nothing halts every file is started.**  However deep
files may run inside each other, let a call come to a place through files inside each other, and let
the run halt there.  Then the call returns with that outcome, which stops the run; all that has
happened since is that each of the files has said that it is finished, the innermost one first; and
the mode is what it was.  Conversely, a line that runs files, at which nothing inside halts, has
started all of its files in order and lets the run go on, unless a place inside is never left; and
so does a call.  What comes of a call is its run with the bound of the program; a call that comes to
no place that is never left has a result, with every bound from there on. -/
theorem halting_unwinds (r : Runner σ) (depth : Nat) (call : Call) (s : Session σ) :
    (∀ names p outcome t, call.Comes r depth s names p → Halts r p outcome t →
      outcome.canContinue = false ∧
      ∃ location, call.run r depth s =
        some (outcome, { unwound names t with mode := call.modeAfter s, location })) ∧
    (∀ line file u, line.keyword = .run → Unhalted r (Inside r line u depth) →
      (∃ t acts, perform r (runFile r depth) line file u = some (.next, file, t) ∧
        t.remote.trace = u.remote.trace ++ acts ∧
        ((filesOf line).map fun name => .started name line.store).Sublist acts) ∨
      (perform r (runFile r depth) line file u = none ∧
        (depth = 0 ∨ ∃ q, Inside r line u depth q ∧ Hangs r q))) ∧
    ((∀ line, call.line? r s = some line → line.keyword = .run) →
      (Unhalted r fun q => ∃ names, call.Comes r depth s names q) →
      (∃ t, call.run r depth s = some (.next, t)) ∨
      (call.run r depth s = none ∧
        (depth = 0 ∨ ∃ names q, call.Comes r depth s names q ∧ Hangs r q))) ∧
    (¬call.Hangs r depth s → (∀ names q, call.Comes r depth s names q → ¬Hangs r q) →
      ∃ outcome t, ∀ deeper, depth ≤ deeper → call.run r deeper s = some (outcome, t)) ∧
    call.result r s = call.run r maxDepth s := by
  refine ⟨?_, ?_, ?_, ?_, call.result_eq r s⟩
  · intro names p outcome t hcomes hhalts
    exact ⟨hhalts.canContinue, hcomes.run_of_halts hhalts⟩
  · intro line file u hrun h
    rw [perform_run hrun]
    obtain ⟨t, acts, himported, htrace, hstarted⟩ | ⟨himported, hhangs⟩ :=
      importFiles_of_unhalted h
    · rw [himported]
      exact .inl ⟨t, acts, rfl, htrace, hstarted⟩
    · rw [himported]
      exact .inr ⟨rfl, hhangs⟩
  · intro hline h
    rcases hrun : call.run r depth s with _ | ⟨outcome, t⟩
    · refine .inr ⟨rfl, ?_⟩
      obtain ⟨line, hdispatched, hat⟩ | hplace := Call.run_eq_none_iff.mp hrun
      · -- the line of the call runs files, and so was not sent
        cases hat with
        | unanswered hpass => simp [hline line hdispatched] at hpass
        | tooDeep _ _ hzero => exact .inl hzero
      · exact .inr hplace
    · obtain rfl := Call.next_of_unhalted hline h hrun
      exact .inl ⟨t, rfl⟩
  · intro hcall hplaces
    exact Call.exists_result_iff.mpr ⟨hcall, hplaces⟩

/-! ## Files inside each other -/

/-- A file that runs others, one that requires a variable that nothing declares, and one without
lines. -/
def nestedFiles : List (String × String) :=
  [("outer.txt", "run inner.txt quiet.txt\nls\n"), ("inner.txt", "required host\nls\n"),
    ("quiet.txt", "")]

/-- The required variable stops both files, and the file without lines runs through; that one file
can be run inside the line is enough for it. -/
theorem halting_unwinds_nestedFiles :
    let r := tableRunner silentHost nestedFiles
    let s := r.newSession ()
    let quiet := Line.parse .builtin "run quiet.txt"
    (∃ p t, (Call.line "run outer.txt").Comes r maxDepth s ["inner.txt", "outer.txt"] p ∧
      Halts r p .halt t ∧
      ∃ location, (Call.line "run outer.txt").result r s =
        some (.halt, { unwound ["inner.txt", "outer.txt"] t with mode := .userInput, location })) ∧
    (Unhalted r (Inside r quiet (Call.carrying r quiet s) maxDepth) ∧
      ∃ t acts, perform r (runFile r maxDepth) quiet none (Call.carrying r quiet s) =
          some (.next, none, t) ∧
        t.remote.trace = (Call.carrying r quiet s).remote.trace ++ acts ∧
        [.started "quiet.txt" {}].Sublist acts) ∧
    (∃ t, (Call.line "run quiet.txt").result r s = some (.next, t)) ∧
    ∃ outcome t, ∀ deeper, 1 ≤ deeper →
      (Call.line "run quiet.txt").run r deeper s = some (outcome, t) := by
  intro r s quiet
  have hline : (Call.line "run quiet.txt").line? r s = some quiet := by decide +kernel
  have hfiles : filesOf quiet = ["quiet.txt"] := by decide +kernel
  have hinside : Unhalted r (Inside r quiet (Call.carrying r quiet s) maxDepth) := by
    rintro z ⟨name, p, names, hopens, hcomes⟩
    generalize maxDepth = depth at hopens
    cases hopens with
    | @file depth before after _ text outcome t hfiles' _ _ _ htext =>
      obtain ⟨rfl, rfl, rfl⟩ : before = [] ∧ name = "quiet.txt" ∧ after = [] := by
        rw [hfiles] at hfiles'
        simpa [List.cons_eq_append_iff] using hfiles'
      have hempty : r.around.readText "quiet.txt" t.world = .ok "" := rfl
      obtain rfl : "" = text := Except.ok.inj (hempty.symm.trans htext)
      have hlines : scriptLines "" = [] := by decide
      exact unhalted_of_no_lines hlines z ⟨_, hcomes⟩
  refine ⟨?_, ⟨hinside, ?_⟩, ?_, ?_⟩
  · let outer := Line.parse .builtin "run outer.txt"
    let inner := Line.parse .builtin "run inner.txt quiet.txt"
    let p : Place Unit := .start 999 "outer.txt" outer.store "run inner.txt quiet.txt\nls\n"
      (begun "outer.txt" outer.store { Call.carrying r outer s with mode := .fileRun })
    let q : Place Unit := .start 998 "inner.txt" inner.store "required host\nls\n"
      (begun "inner.txt" inner.store { carrying r inner p.session with mode := .fileRun })
    let z : Place Unit := (q.next? r).get (by decide +kernel)
    have houter : filesOf outer = ["outer.txt"] := by decide +kernel
    have hinner : filesOf inner = ["inner.txt", "quiet.txt"] := by decide +kernel
    have hlines : z.lines = ["ls"] := by decide +kernel
    have hp : Opens r outer (Call.carrying r outer s) maxDepth "outer.txt" p :=
      .first houter (by decide +kernel) rfl
    have hq : Opens r inner (carrying r inner p.session) 999 "inner.txt" q :=
      .first hinner (by decide +kernel) rfl
    have hz : Comes r q [] z := .next (Option.some_get _).symm (.here z)
    have hcomes : (Call.line "run outer.txt").Comes r maxDepth s ["inner.txt", "outer.txt"] z :=
      .line (by decide +kernel) (by decide +kernel) hp
        (.enter (by decide +kernel) (by decide +kernel) hq hz)
    have hhalts : Halts r z .halt (z.session.say (Failure.variableMissing "-@host").message) :=
      .missing hlines (by decide +kernel) (by decide +kernel)
    refine ⟨z, _, hcomes, hhalts, ?_⟩
    obtain ⟨hunwinds, -, -, -, hresult⟩ := halting_unwinds r maxDepth (.line "run outer.txt") s
    rw [hresult]
    exact (hunwinds _ _ _ _ hcomes hhalts).2
  · obtain ⟨t, acts, hperform, htrace, hstarted⟩ | ⟨hnone, -⟩ :=
      (halting_unwinds r maxDepth (.line "run quiet.txt") s).2.1 quiet none
        (Call.carrying r quiet s) (by decide +kernel) hinside
    · rw [hfiles] at hstarted
      exact ⟨t, acts, hperform, htrace, hstarted⟩
    · exact absurd hnone (by decide +kernel)
  · have hcomes : Unhalted r fun q =>
        ∃ names, (Call.line "run quiet.txt").Comes r maxDepth s names q := by
      intro z hz
      exact hinside z ((Call.exists_comes_iff_inside hline).mp hz).2
    have hruns : ∀ line, (Call.line "run quiet.txt").line? r s = some line →
        line.keyword = .run := by
      rw [hline]
      rintro line ⟨⟩
      decide +kernel
    obtain ⟨-, -, hgoes, -, hresult⟩ := halting_unwinds r maxDepth (.line "run quiet.txt") s
    rw [hresult]
    obtain ht | ⟨hnone, -⟩ := hgoes hruns hcomes
    · exact ht
    · exact absurd hnone (by decide +kernel)
  · have hends : (Call.line "run quiet.txt").run r 1 s ≠ none := by decide +kernel
    rw [Ne, Call.run_eq_none_iff, not_or] at hends
    obtain ⟨-, -, -, hresult, -⟩ := halting_unwinds r 1 (.line "run quiet.txt") s
    exact hresult hends.1 fun names q hq hhangs => hends.2 ⟨names, q, hq, hhangs⟩

end ScriptedShell.Run
