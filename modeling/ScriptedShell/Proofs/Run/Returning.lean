/-
# Going back to the start

A session notes the directory in which it starts, and no line changes this note
(`carried_startPath`).  A line that goes back hands a script to the engine that is made of `cd` and
the noted path, unquoted, so that it leads back where the engine reads the path as it is meant and
nowhere else (`back_returns`).
-/
import Mathlib
import ScriptedShell.App.Workplace
import ScriptedShell.Proofs.Local.Directories
import ScriptedShell.Proofs.Run.Halting

namespace ScriptedShell.Run

open Command Local Files

variable {σ : Type} {r : Runner σ}

/-! ## The start of a session -/

/-- **Runs leave the start of a session as it is.** -/
theorem carried_startPath (r : Runner σ) : Carried r fun _ s t => t.startPath = s.startPath where
  refl _ := rfl
  trans h h' := h'.trans h
  weaken h := h
  say _ h := h
  remote _ _ hstart h := hstart.trans h
  started _ _ _ := rfl
  pause _ := rfl
  runs _ _ _ := rfl
  perform _ hrun h := (carriedOut_perform hrun h).start

/-- Whether a session can have come of calls from another one, however deep files may run inside
each other; between two calls the host may deliver, and the world may change. -/
inductive Follows (r : Runner σ) (start : Session σ) : Session σ → Prop
  | here : Follows r start start
  | call {s t : Session σ} {call : Call} {depth : Nat} {outcome : Outcome} :
      Follows r start s → call.run r depth s = some (outcome, t) → Follows r start t
  | delivered {s : Session σ} (ds : List Remote.Delivery) :
      Follows r start s → Follows r start (s.deliverAll r ds)
  | changed {s : Session σ} (world : σ) :
      Follows r start s → Follows r start { s with remote := { s.remote with world } }

/-- Calls with the bound of the program are among them. -/
theorem Follows.result {start s t : Session σ} {call : Call} {outcome : Outcome}
    (h : Follows r start s) (hresult : call.result r s = some (outcome, t)) :
    Follows r start t := by
  rw [Call.result_eq] at hresult
  exact .call h hresult

/-- Whether a line comes up after some calls, typed or in a file, to be carried out in a session. -/
inductive ComesUp (r : Runner σ) (start : Session σ) (line : Line) : Session σ → Prop
  | typed {s : Session σ} {text : String} :
      Follows r start s → (Call.line text).line? r s = some line →
      ComesUp r start line (Call.carrying r line s)
  | inFile {s : Session σ} {call : Call} {depth : Nat} {names : List String} {p : Place σ} :
      Follows r start s → call.Comes r depth s names p → p.line? r = some line →
      ComesUp r start line (carrying r line p.session)

section Start

variable {start s : Session σ} {line : Line}

/-- A session that has come of calls has the start that it began with. -/
theorem Follows.startPath_eq (h : Follows r start s) : s.startPath = start.startPath := by
  induction h with
  | here => rfl
  | call _ hrun ih => exact ((carried_startPath r).call_run hrun).trans ih
  | delivered ds _ ih => exact ih
  | changed world _ ih => exact ih

/-- So has a session in which a line comes up. -/
theorem ComesUp.startPath_eq (h : ComesUp r start line s) : s.startPath = start.startPath := by
  cases h with
  | typed hfollows => exact hfollows.startPath_eq
  | inFile hfollows hcomes =>
    exact ((carried_startPath r).call_comes hcomes).trans hfollows.startPath_eq

end Start

/-! ## Surroundings with an engine -/

/-- Whether the local shell of some surroundings is an engine: which one, and on which machine, is
told by the world. -/
structure RunsEngine (spawn : Spawner) (around : Surroundings σ) (engine : σ → Engine)
    (machine : σ → Machine) : Prop where
  directory : ∀ w, around.currentDirectory w = (engine w).directory
  invoke : ∀ script w,
    engine (around.invoke script w).world = ((engine w).invoke spawn (machine w) script).2.1

/-- The local shell of a workplace is its engine. -/
theorem runsEngine_workplace (spawn : Spawner) (settings : RemoteSettings) :
    RunsEngine spawn (App.Workplace.surroundings spawn settings) App.Workplace.engine
      App.Workplace.machine where
  directory _ := rfl
  invoke script w := by
    unfold App.Workplace.surroundings App.Workplace.invoke Invoked.ofResult
    dsimp only

section Back

variable {spawn : Spawner} {engine : σ → Engine} {machine : σ → Machine}

/-- Writing lines to the console changes nothing in the world. -/
theorem world_sayAll (s : Session σ) (texts : List String) : (s.sayAll texts).world = s.world := by
  induction texts generalizing s with
  | nil => rfl
  | cons text texts ih => exact ih (s.say text)

/-- Deliveries change nothing in the world. -/
theorem world_deliverAll (s : Remote.Session σ) (width : Nat) (ds : List Remote.Delivery) :
    (s.deliverAll width ds).world = s.world := by
  induction ds generalizing s with
  | nil => rfl
  | cons d ds ih =>
    refine (ih (s.deliver width d)).trans ?_
    rw [Remote.Session.deliver]
    split <;> rfl

/-- What happens while a script runs changes nothing else in the world. -/
theorem world_takeInAll (s : Session σ) (streamed : Bool) (events : List LocalEvent) :
    (s.takeInAll r streamed events).world = s.world := by
  induction events generalizing s with
  | nil => rfl
  | cons event events ih =>
    refine (ih (s.takeIn r streamed event)).trans ?_
    cases event with
    | line text =>
      rw [Session.takeIn]
      split_ifs <;> rfl
    | delivery d => exact world_deliverAll s.remote r.width [d]

/-- A line that goes back hands a script to the local shell, and the run goes on. -/
theorem perform_back (runFile : FileRunner σ) {line : Line} (file : Option FileRun)
    (s : Session σ) (hback : line.keyword = .back) :
    ∃ t, perform r runFile line file s = some (.next, file, t) ∧
      t.world = (r.around.invoke ("cd " ++ s.startPath) s.world).world := by
  rw [perform, hback]
  exact ⟨_, rfl, (world_sayAll _ _).trans (world_takeInAll _ _ _)⟩

/-! ## The main statement -/

/-- **Where a line that goes back leads.**  Let a session start in a directory, and let a line that
goes back come up after any calls, typed or in a file.  Then the run goes on, and the engine is in
the directory to which it resolves the target that it reads behind `cd`, or where it was.  Let the
start be given by an absolute path that leads to a directory still.  If the engine is somewhere else,
the line leads back exactly when the path has no character in it that sets scripts apart, and leads
to the same directory without the blanks and quotes at its end; and so it does, wherever the engine
is, when the path does not end with any. -/
theorem back_returns (hengine : RunsEngine spawn r.around engine machine) {world : σ} {line : Line}
    {s : Session σ} (hup : ComesUp r (r.newSession world) line s) (hback : line.keyword = .back)
    (runFile : FileRunner σ) (file : Option FileRun) :
    let start := (engine world).directory
    let current := (engine s.world).directory
    let m := machine s.world
    ∃ t, perform r runFile line file s = some (.next, file, t) ∧
      (engine t.world).directory = ((targetOf? start).bind fun target =>
        m.directory? (resolveTarget m.home? current target)).getD current ∧
      (Path.isAbsolute start = true → ∀ directory, m.directory? start = some directory →
        (current ≠ directory → ((engine t.world).directory = directory ↔
          ¬HasBreak start ∧ m.directory? (withoutEnd start) = some directory)) ∧
        (IsPlainPath start → (engine t.world).directory = directory)) := by
  intro start current m
  obtain ⟨t, hperform, hworld⟩ := perform_back (r := r) runFile file s hback
  have hstart : s.startPath = start := hup.startPath_eq.trans (hengine.directory world)
  have hengine' : engine t.world = ((engine s.world).invoke spawn m ("cd " ++ start)).2.1 := by
    rw [hworld, hengine.invoke, hstart]
  refine ⟨t, hperform, ?_, ?_⟩
  · rw [hengine']
    exact (engine s.world).directory_invoke_cd spawn m start
  · intro habsolute directory hthere
    have hafter : (engine t.world).directory =
        if HasBreak start then current else (m.directory? (withoutEnd start)).getD current := by
      rw [hengine']
      exact (engine s.world).directory_invoke_cd_absolute spawn m habsolute
    constructor
    · intro helsewhere
      rw [hafter]
      split_ifs with hbreak
      · exact iff_of_false helsewhere fun h => h.1 hbreak
      · -- the engine comes back when the path that is read leads to the same directory
        cases hleft : m.directory? (withoutEnd start) with
        | none => exact iff_of_false helsewhere fun h => nomatch h.2
        | some other => simp [hbreak]
    · intro hplain
      rw [hafter, if_neg hplain.noBreak, hplain.withoutEnd_eq, hthere]
      rfl

end Back

/-! ## Two directories -/

/-- A machine with two directories, which differ in a quote, and no program that can be started. -/
def quotedMachine : Machine :=
  { tree := (Tree.put {} ["notes"] .directory).put ["notes'"] .directory }

/-- A spawner that starts nothing. -/
def noSpawner : Spawner := fun _ m => (.error "no program", m)

/-- A runner whose local shell is an engine, which starts in a directory of the machine. -/
def workplaceRunner : Runner App.Workplace where
  settings := {}
  width := 80
  around := App.Workplace.surroundings noSpawner {}

/-- The workplace with the engine in a directory. -/
def workplaceIn (directory : String) : App.Workplace :=
  ⟨quotedMachine, { program := "/bin/sh", arguments := ["-c"], directory, environment := [] }⟩

/-- A session that starts in the directory without a quote comes back to it from the root. -/
theorem back_returns_notes :
    ∃ s, ComesUp workplaceRunner (workplaceRunner.newSession (workplaceIn "/notes"))
        (.parse .builtin "back") s ∧ s.world.engine.directory = "/" ∧
      ∃ t, perform workplaceRunner (runFile workplaceRunner maxDepth) (.parse .builtin "back") none
          s = some (.next, none, t) ∧
        t.world.engine.directory = "/notes" := by
  have hleft : ((Call.line "cd ..").result workplaceRunner
      (workplaceRunner.newSession (workplaceIn "/notes"))).map (fun (_, s) =>
        (s.world.engine.directory, s.world.machine.directory? "/notes",
          (Call.line "back").line? workplaceRunner s)) =
      some ("/", some "/notes", some (.parse .builtin "back")) := by decide +kernel
  obtain ⟨⟨outcome, s⟩, hcall, hfacts⟩ := Option.map_eq_some_iff.mp hleft
  simp only [Prod.mk.injEq] at hfacts
  obtain ⟨hroot, hthere, hline⟩ := hfacts
  have hup := ComesUp.typed (Follows.result .here hcall) hline
  have hengine : RunsEngine noSpawner workplaceRunner.around App.Workplace.engine
      App.Workplace.machine := runsEngine_workplace noSpawner {}
  obtain ⟨t, hperform, -, hreturns⟩ := back_returns hengine hup (by decide +kernel)
    (runFile workplaceRunner maxDepth) none
  have habsolute : Path.isAbsolute "/notes" = true := by decide
  have hlast : "/notes".toList.getLast? = some 's' := by decide
  have hplain : IsPlainPath "/notes" := by
    refine ⟨by decide, ?_⟩
    rw [hlast]
    rintro c ⟨⟩
    decide
  exact ⟨_, hup, hroot, t, hperform, (hreturns habsolute "/notes" hthere).2 hplain⟩

/-- A session that starts in the directory with the quote does not come back to it. -/
theorem quote_lost_on_the_way_back :
    quotedMachine.directory? "/notes'" = some "/notes'" ∧
      (((Call.line "cd ..").result workplaceRunner
        (workplaceRunner.newSession (workplaceIn "/notes'"))).bind fun (_, s) =>
          ((Call.line "back").result workplaceRunner s).map fun (_, t) =>
            (s.world.engine.directory, t.world.engine.directory)) = some ("/", "/notes") := by
  decide +kernel

end ScriptedShell.Run
