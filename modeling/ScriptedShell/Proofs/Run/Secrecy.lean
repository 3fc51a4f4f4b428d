/-
# What a script run shows of a password

Two runs of a script, each with its own password on the lines that open a session, in surroundings
that answer alike, stay alike line by line (`Runs.runLines`), also in the files that the script
runs.  So they end alike, show the same and leave the same variables, mode and location, and what
they write to their connections is the same, save that each writes its own password.
-/
import Mathlib
import ScriptedShell.Proofs.Remote.Injection
import ScriptedShell.Proofs.Run.Alike
import ScriptedShell.Proofs.Run.Places

namespace ScriptedShell

open Remote Command Text Variable Run

/-- Two runs both have no result, or both have one, with the same value. -/
theorem rel_both_cases {α σ τ : Type} {R : σ → τ → Prop} {x : Option (α × σ)}
    {y : Option (α × τ)} (h : Option.Rel (Both R) x y) :
    (x = none ∧ y = none) ∨ ∃ a s s', x = some (a, s) ∧ y = some (a, s') ∧ R s s' := by
  obtain hnone | ⟨x, y, hx, hy, hboth⟩ := rel_cases h
  · exact .inl hnone
  · obtain ⟨a, s, s', rfl, rfl, hrel⟩ := hboth.exists_eq
    exact .inr ⟨a, s, s', hx, hy, hrel⟩

/-- The same further value put next to two states. -/
theorem Both.insert {α β σ τ : Type} {R : σ → τ → Prop} {x : α × σ} {y : α × τ}
    (h : Both R x y) (b : β) : Both (Both R) (x.1, b, x.2) (y.1, b, y.2) :=
  ⟨h.value, ⟨rfl, h.state⟩⟩

/-- The same further value put next to two states, if there are any. -/
theorem rel_insert {α β σ τ : Type} {R : σ → τ → Prop} {x : Option (α × σ)}
    {y : Option (α × τ)} (h : Option.Rel (Both R) x y) (b : β) :
    Option.Rel (Both (Both R)) (x.map fun result => (result.1, b, result.2))
      (y.map fun result => (result.1, b, result.2)) := by
  cases h with
  | none => exact .none
  | some hboth => exact .some (hboth.insert b)

namespace Twins

variable {σ τ : Type} {A : Twins σ τ}

/-! ## Lines -/

namespace Runs

variable {s : Run.Session σ} {s' : Run.Session τ} {r : Runner σ} {r' : Runner τ}
  {runFile : FileRunner σ} {runFile' : FileRunner τ}

theorem importEach (hf : A.FileRunners runFile runFile') (store : Store) (last : Outcome)
    (names : List String) (h : A.Runs s s') :
    Option.Rel (Both A.Runs) (Run.importEach runFile store last names s)
      (Run.importEach runFile' store last names s') := by
  induction names generalizing s s' last with
  | nil => exact .some ⟨rfl, h⟩
  | cons name names ih =>
    rw [Run.importEach, Run.importEach]
    obtain ⟨hx, hx'⟩ | ⟨outcome, t, t', hx, hx', ht⟩ := rel_both_cases (hf name store s s' h)
    · rw [hx, hx']
      exact .none
    · rw [hx, hx']
      dsimp only
      split_ifs
      · exact ih outcome ht
      · exact .some ⟨rfl, ht⟩

theorem importFiles (hf : A.FileRunners runFile runFile') (line : Line) (h : A.Runs s s') :
    Option.Rel (Both A.Runs) (Run.importFiles runFile line s)
      (Run.importFiles runFile' line s') := by
  rw [Run.importFiles, Run.importFiles]
  split_ifs
  · exact .some ⟨rfl, h.say _⟩
  · have hrun : A.Runs { s with mode := .fileRun } { s' with mode := .fileRun } := h.withMode rfl
    obtain ⟨hx, hx'⟩ | ⟨outcome, t, t', hx, hx', ht⟩ :=
      rel_both_cases (hrun.importEach hf line.store .next (filesOf line))
    · rw [hx, hx']
      exact .none
    · rw [hx, hx']
      exact .some ⟨rfl, ht.withMode h.mode⟩

/-- One case for each command; only the one that opens a session may carry a password. -/
theorem perform (hr : A.Runners r r') (hf : A.FileRunners runFile runFile') {line line' : Line}
    (hl : A.Commands line line') (file : Option FileRun) (h : A.Runs s s') :
    Option.Rel (Both (Both A.Runs)) (Run.perform r runFile line file s)
      (Run.perform r' runFile' line' file s') := by
  by_cases hconnect : line.keyword = .connect
  · rw [Run.perform, Run.perform, ← hl.keyword, hconnect]
    exact .some ((openSession hr hl h).insert file)
  · obtain rfl := hl.same hconnect
    rw [Run.perform, Run.perform]
    cases line.keyword with
    | passthrough => exact rel_insert (passOn hr line h) file
    | connect => exact .some ((openSession hr hl h).insert file)
    | endConnect => exact .some ((closeSession hr h).insert file)
    | transfer => exact .some ((transferFile hr line h).insert file)
    | run => exact rel_insert (importFiles hf line h) file
    | openPath => exact .some ((openPath hr line h).insert file)
    | back => exact .some ((goBack hr h).insert file)
    | declare => exact .some ((declareVariables line file h).insert file)
    | remove => exact .some ((removeVariables line h).insert file)
    | require => exact .some ⟨rfl, requireVariables line file h⟩
    | unrequire => exact .some ⟨rfl, unrequireVariables line file h⟩
    | ifExist => exact .some ((askFiles hr line h).insert file)
    | endIf => exact .some ⟨rfl, rfl, h⟩
    | printMode => exact .some ⟨rfl, rfl, h.togglePrint⟩
    | invokeMode => exact .some ⟨rfl, rfl, h.setStream true⟩
    | endInvokeMode => exact .some ⟨rfl, rfl, h.setStream false⟩
    | clear => exact .some ⟨rfl, rfl, h.noteSame _⟩
    | fixRow => exact .some ((beginFixedRows hr line h).insert file)
    | endFixRow => exact .some ⟨rfl, rfl, h.withRemote h.remote.exitRedraw⟩

theorem dispatch (hr : A.Runners r r') (hf : A.FileRunners runFile runFile') {line line' : Line}
    (hl : A.Commands line line') (file : Option FileRun) (h : A.Runs s s') :
    Option.Rel (Both (Both A.Runs)) (Run.dispatch r runFile line file s)
      (Run.dispatch r' runFile' line' file s') := by
  rw [Run.dispatch, Run.dispatch, hl.isBlank, hl.isComment]
  split_ifs
  · exact .some ⟨rfl, rfl, h⟩
  · exact ((pause hr h .dispatching).note (.cons (.dispatched hl.masked) .nil)).perform hr hf hl file

theorem announce {line line' : Line} (hl : A.Commands line line') (h : A.Runs s s') :
    A.Runs (Run.announce line s) (Run.announce line' s') := by
  rw [Run.announce, Run.announce, hl.isComment, hl.masked]
  split_ifs
  · exact h
  · exact h.say _

/-! ## Files -/

/-- Lines of a file are read alike. -/
theorem readLine (hfirst : IsPlain A.first) (hsecond : IsPlain A.second) (hr : A.Runners r r')
    (hbuiltin : r.policies = .builtin) {text text' : String} (ht : A.Lines text text')
    (file : FileRun) (h : A.Runs s s') :
    A.Commands (Run.readLine r file s text) (Run.readLine r' file s' text') := by
  rw [Run.readLine, Run.readLine, ← hr.policies_eq, hbuiltin, layersOf, layersOf, h.store]
  exact ht.commands hfirst hsecond _

/-- **Runs stay alike line by line.**  Induction on the lines: each is read alike, shown alike and
carried out alike, and the rest is passed over or not in both runs. -/
theorem runLines (hfirst : IsPlain A.first) (hsecond : IsPlain A.second) (hr : A.Runners r r')
    (hbuiltin : r.policies = .builtin) (hf : A.FileRunners runFile runFile') (suppress : Bool)
    (file : FileRun) {lines lines' : List String} (hlines : List.Forall₂ A.Lines lines lines')
    (h : A.Runs s s') :
    Option.Rel (Both A.Runs) (Run.runLines r runFile suppress file lines s)
      (Run.runLines r' runFile' suppress file lines' s') := by
  induction hlines generalizing s s' suppress file with
  | nil => exact .some ⟨rfl, h⟩
  | @cons text text' lines lines' ht _ ih =>
    have hl := h.readLine hfirst hsecond hr hbuiltin ht file
    have hlayers : layersOf file s = layersOf file s' := by rw [layersOf, layersOf, h.store]
    rw [Run.runLines, Run.runLines, ht.isBlankText_eq, h.echo, hlayers]
    by_cases hblank : isBlankText text' = true
    · rw [if_pos hblank, if_pos hblank]
      split_ifs
      · exact ih suppress file (h.say "")
      · exact ih suppress file h
    · rw [if_neg hblank, if_neg hblank]
      dsimp only
      cases file.missing? (layersOf file s') with
      | some key => exact .some ⟨rfl, h.say _⟩
      | none =>
        dsimp only
        rw [hl.keyword]
        by_cases hsuppress : suppress = true
        · rw [if_pos hsuppress, if_pos hsuppress]
          exact ih _ file h
        · rw [if_neg hsuppress, if_neg hsuppress]
          obtain ⟨hx, hx'⟩ | ⟨outcome, x, x', hx, hx', hrest⟩ :=
            rel_both_cases ((h.announce hl).dispatch hr hf hl (some file))
          · rw [hx, hx']
            exact .none
          · obtain ⟨after, t, t', rfl, rfl, ht⟩ := hrest.exists_eq
            rw [hx, hx']
            dsimp only
            split_ifs
            · exact ih _ _ ht
            · exact .some ⟨rfl, ht⟩

theorem runFound (hfirst : IsPlain A.first) (hsecond : IsPlain A.second) (hr : A.Runners r r')
    (hbuiltin : r.policies = .builtin) (hf : A.FileRunners runFile runFile') (name path : String)
    (store : Store) (h : A.Runs s s') :
    Option.Rel (Both A.Runs) (Run.runFound r runFile name path store s)
      (Run.runFound r' runFile' name path store s') := by
  have hread := hr.around.readText h.world path
  rw [Run.runFound, Run.runFound, hr.around.copier.isFile h.world]
  generalize r.around.readText path s.world = x, r'.around.readText path s'.world = x' at hread ⊢
  split_ifs
  · cases hread with
    | fault fault => exact .some ⟨rfl, h.say _⟩
    | script hscript => exact h.runLines hfirst hsecond hr hbuiltin hf false _ hscript
  · exact .some ⟨rfl, h.say _⟩

theorem refresh (hr : A.Runners r r') (h : A.Runs s s') :
    A.Runs (s.refresh r) (s'.refresh r') := by
  have hdestination : s.remote.endpoint.map (fun e => e.destination) =
      s'.remote.endpoint.map fun e => e.destination := by
    obtain ⟨hx, hx'⟩ | ⟨e, e', hx, hx', he⟩ := rel_cases h.remote.endpoint
    · rw [hx, hx']
    · rw [hx, hx', Option.map_some, Option.map_some, Endpoint.destination, Endpoint.destination,
        he.user, he.host]
  have hlocation : (s.refresh r).location = (s'.refresh r').location := by
    rw [Run.Session.refresh, Run.Session.refresh, h.remote.isConnected_eq, h.remote.inbox,
      hdestination, hr.around.currentDirectory h.world]
  exact { h with location := hlocation }

end Runs

/-- Files that run inside each other keep runs alike, however deep. -/
theorem fileRunners_runFile {r : Runner σ} {r' : Runner τ} (hfirst : IsPlain A.first)
    (hsecond : IsPlain A.second) (hr : A.Runners r r') (hbuiltin : r.policies = .builtin)
    (depth : Nat) : A.FileRunners (Run.runFile r depth) (Run.runFile r' depth) := by
  induction depth with
  | zero => exact fun _ _ _ _ _ => .none
  | succ depth ih =>
    intro name store s s' h
    have hstarted : A.Runs (Run.begun name store s) (Run.begun name store s') :=
      (h.noteSame [.started name store]).say ("Start run file " ++ name)
    rw [Run.runFile_succ, Run.runFile_succ, hr.around.currentDirectory h.world]
    obtain ⟨hx, hx'⟩ | ⟨outcome, u, u', hx, hx', hu⟩ :=
      rel_both_cases (hstarted.runFound hfirst hsecond hr hbuiltin ih name _ store)
    · rw [hx, hx']
      exact .none
    · rw [hx, hx']
      exact .some ⟨rfl, hu.say _⟩

/-! ## What can be observed -/

variable (A)

/-- Writes to the same connection: the same text, or each run's password. -/
def Writes (x y : Nat × String) : Prop :=
  x = y ∨ ∃ connection, x = (connection, A.first ++ "\r") ∧ y = (connection, A.second ++ "\r")

variable {A}

/-- Activities that are alike write alike. -/
theorem forall₂_writes {acts acts' : List Activity} (h : List.Forall₂ A.Activities acts acts') :
    List.Forall₂ A.Writes (writes acts) (writes acts') := by
  induction h with
  | nil => exact .nil
  | @cons a a' acts acts' hact _ ih =>
    cases hact with
    | same =>
      cases a with
      | wrote connection text => exact .cons (.inl rfl) ih
      | _ => exact ih
    | opening connection he timeout => exact ih
    | wrote connection ht =>
      cases ht with
      | same => exact .cons (.inl rfl) ih
      | passwords => exact .cons (.inr ⟨connection, rfl, rfl⟩) ih
    | dispatched hl => exact ih

/-- Activities that are alike show the same. -/
theorem shownEntries_eq {acts acts' : List Activity} (h : List.Forall₂ A.Activities acts acts') :
    shownEntries acts = shownEntries acts' := by
  induction h with
  | nil => rfl
  | @cons a a' acts acts' hact _ ih =>
    cases hact with
    | same =>
      cases a with
      | shown entry => exact congrArg (entry :: ·) ih
      | _ => exact ih
    | opening connection he timeout => exact ih
    | wrote connection ht => exact ih
    | dispatched hl => exact ih

/-- Equal runs are alike. -/
theorem runs_self {A : Twins σ σ} (s : Run.Session σ) (hw : A.worlds s.world s.world) :
    A.Runs s s where
  remote :=
    { inbox := rfl
      handlers := rfl
      channel := rfl
      endpoint := by
        cases s.remote.endpoint with
        | none => exact .none
        | some e => exact .some (endpoints_same e)
      trace := activities_same s.remote.trace
      world := hw }
  store := rfl
  mode := rfl
  echo := rfl
  stream := rfl
  startPath := rfl
  location := rfl

/-! ## The main statement -/

variable (A)

/-- Ends of two runs that are the same but for the passwords: the outcome, the entries shown, the
variables, the mode and the location are the same, and the writes are the same save that each run
writes its own password. -/
structure Ends (x : Outcome × Run.Session σ) (y : Outcome × Run.Session τ) : Prop where
  outcome : x.1 = y.1
  entries : shownEntries x.2.remote.trace = shownEntries y.2.remote.trace
  store : x.2.store = y.2.store
  mode : x.2.mode = y.2.mode
  location : x.2.location = y.2.location
  writes : List.Forall₂ A.Writes (writes x.2.remote.trace) (writes y.2.remote.trace)

variable {A}

/-- **A script run shows nothing of a password.**  Let a script be run twice from sessions that are
alike, with one plain password and with another on the lines that open a session, under the builtin
policies and in surroundings that answer both runs alike.  Then, however deep files may run inside
each other, both runs have no result, or both have one, and they end the same but for the passwords;
so it is with the bound of the program. -/
theorem runScript_secrecy (A : Twins σ τ) (hfirst : IsPlain A.first) (hsecond : IsPlain A.second)
    {r : Runner σ} {r' : Runner τ} (hr : A.Runners r r') (hbuiltin : r.policies = .builtin)
    {text text' : String} (htext : A.Scripts text text') {s : Run.Session σ}
    {s' : Run.Session τ} (h : A.Runs s s') (name : String) (store : Store) :
    (∀ depth, Option.Rel A.Ends ((Call.script name text store).run r depth s)
      ((Call.script name text' store).run r' depth s')) ∧
    Option.Rel A.Ends (r.runScript name text store s) (r'.runScript name text' store s') := by
  have hends : ∀ depth, Option.Rel A.Ends ((Call.script name text store).run r depth s)
      ((Call.script name text' store).run r' depth s') := by
    intro depth
    have hfiles := fileRunners_runFile hfirst hsecond hr hbuiltin depth
    have hstart : A.Runs { s with mode := .fileRun } { s' with mode := .fileRun } := h.withMode rfl
    have hlines := hstart.runLines hfirst hsecond hr hbuiltin hfiles false { name, store } htext
    rw [Call.run, Call.run, Place.run, Place.run, Place.start, Place.start]
    dsimp only
    obtain ⟨hx, hx'⟩ | ⟨outcome, t, t', hx, hx', ht⟩ := rel_both_cases hlines
    · rw [hx, hx']
      exact .none
    · rw [hx, hx']
      have hdone := (ht.withMode h.mode).refresh hr
      exact .some ⟨rfl, shownEntries_eq hdone.remote.trace, hdone.store, hdone.mode,
        hdone.location, forall₂_writes hdone.remote.trace⟩
  refine ⟨hends, ?_⟩
  rw [Call.run_script, Call.run_script]
  exact hends maxDepth

/-! ## Two passwords for one host -/

/-- Text that comes through a connection in one chunk. -/
def chunk (connection : Nat) (text : String) : List Delivery :=
  [⟨connection, .data text.toUTF8.toList⟩]

/-- A host that asks for the password of one command, and goes on whatever is typed. -/
def askingHost : Host Unit where
  openShell connection _ _ w := { deliveries := chunk connection "deploy@box:~$ ", world := w }
  write connection text w :=
    { deliveries := chunk connection
        (if text = "sudo id\r" then "sudo id\r\n[sudo] password for deploy: "
          else "\r\nuid=0(root)\r\ndeploy@box:~$ ")
      world := w }
  flush _ w := { world := w }
  close _ w := { world := w }
  await _ w := .nothing w
  pause _ w := ([], w)

/-- A runner with that host and with no files. -/
def askingRunner : Runner Unit where
  settings := {}
  width := 80
  around :=
    { host := askingHost
      copier :=
        { upload := fun _ _ _ w => { world := w }
          download := fun _ _ _ w => { world := w }
          isFile := fun _ _ => false
          removeFile := fun _ w => .ok w }
      currentDirectory := fun _ => "/home/deploy"
      invoke := fun script w => { result := { script, code := some 0 }, world := w }
      readText := fun _ _ => .error .missing }

/-- A script that opens a session and runs a privileged command. -/
def loginScript (password : String) : String :=
  "ssh deploy@box -#p " ++ password ++ " -p 2222\nsudo id\n"

/-- Two runs of that script. -/
def twoLogins : Twins Unit Unit := ⟨"hunter2", "swordfish", fun _ _ => True⟩

theorem runners_askingRunner : twoLogins.Runners askingRunner askingRunner where
  settings := rfl
  width := rfl
  around :=
    { host :=
        { openShell := fun _ _ _ _ => ⟨rfl, rfl, trivial⟩
          write := by
            intro text text' w w' ht hw connection
            cases ht with
            | same => exact ⟨rfl, rfl, trivial⟩
            | passwords => exact ⟨rfl, congrArg (chunk connection) (by decide +kernel), trivial⟩
          flush := fun _ _ => ⟨rfl, rfl, trivial⟩
          close := fun _ _ => ⟨rfl, rfl, trivial⟩
          await := fun _ _ => .nothing trivial
          pause := fun _ _ => ⟨rfl, trivial⟩ }
      copier :=
        { upload := fun _ _ _ _ => ⟨rfl, rfl, rfl, trivial⟩
          download := fun _ _ _ _ => ⟨rfl, rfl, rfl, trivial⟩
          isFile := fun _ _ => rfl
          removeFile := fun _ _ => .world trivial }
      currentDirectory := fun _ => rfl
      invoke := fun _ _ => ⟨rfl, rfl, trivial⟩
      readText := fun _ _ => .fault .missing }

/-- The two scripts are the same but for the passwords. -/
theorem scripts_loginScript :
    twoLogins.Scripts (loginScript "hunter2") (loginScript "swordfish") := by
  have hlines : scriptLines (loginScript "hunter2") =
      ["ssh deploy@box -#p hunter2 -p 2222", "sudo id"] := by decide +kernel
  have hlines' : scriptLines (loginScript "swordfish") =
      ["ssh deploy@box -#p swordfish -p 2222", "sudo id"] := by decide +kernel
  have hwords : wordsOf "ssh deploy@box -#p hunter2 -p 2222" =
      openingWords "deploy@box" twoLogins.first (some "2222") := by decide +kernel
  have hwords' : wordsOf "ssh deploy@box -#p swordfish -p 2222" =
      openingWords "deploy@box" twoLogins.second (some "2222") := by decide +kernel
  have hport : ∀ number ∈ some "2222", IsPlain number := by
    rintro number ⟨⟩
    decide
  rw [Scripts, hlines, hlines']
  exact .cons (.opens (by decide) hport hwords hwords') (.cons (.same _) .nil)

/-- Two runs of a script that opens a session and runs a privileged command: all that tells them
apart is the password that each of them writes. -/
theorem runScript_secrecy_loginScript :
    let s := askingRunner.newSession ()
    IsPlain twoLogins.first ∧ IsPlain twoLogins.second ∧
      twoLogins.Runners askingRunner askingRunner ∧ askingRunner.policies = .builtin ∧
      twoLogins.Scripts (loginScript "hunter2") (loginScript "swordfish") ∧
      twoLogins.Runs s s ∧
      (askingRunner.runScript "login.txt" (loginScript "hunter2") {} s).map
          (fun x => (x.1, writes x.2.remote.trace)) =
        some (.next, [(0, "sudo id\r"), (0, "hunter2\r")]) ∧
      Option.Rel twoLogins.Ends
        (askingRunner.runScript "login.txt" (loginScript "hunter2") {} s)
        (askingRunner.runScript "login.txt" (loginScript "swordfish") {} s) := by
  intro s
  have hfirst : IsPlain twoLogins.first := by decide
  have hsecond : IsPlain twoLogins.second := by decide
  have hruns : twoLogins.Runs s s := runs_self s trivial
  refine ⟨hfirst, hsecond, runners_askingRunner, rfl, scripts_loginScript, hruns,
    by decide +kernel, ?_⟩
  exact (runScript_secrecy twoLogins hfirst hsecond runners_askingRunner rfl scripts_loginScript
    hruns "login.txt" {}).2

end Twins

end ScriptedShell
