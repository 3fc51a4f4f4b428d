/-
# Lines under a condition that does not hold

When files are asked for and one of them is not there, the lines that follow are passed over, up to
one that reads as the end of the condition.  They are still read, and required variables are still
looked for, but asking for files changes no variable, so that none can be missing there: the lines
leave the run exactly as it is (`turns_passedOver`).  Hence any of them can be deleted.
-/
import Mathlib
import ScriptedShell.Proofs.Run.Places

namespace ScriptedShell.Run

open Command Variable Text

variable {σ : Type}

/-- Whether the run of a file comes, after some lines, to one that asks for files and is carried out
without finding that they all exist, and no line of a block that follows reads as the end of the
condition. -/
def Suppresses (r : Runner σ) (runFile : FileRunner σ) (file : FileRun) (s : Session σ)
    (before : List String) (text : String) (block : List String) : Prop :=
  ∃ file' t line outcome after u,
    turns r runFile false file before s = some (.on false file' t) ∧
    lineAt? r false file' text t = some line ∧ line.keyword = .ifExist ∧
    perform r runFile line (some file') (carrying r line t) = some (outcome, after, u) ∧
    outcome.isTrue = false ∧ ∀ later ∈ block, (readLine r file' u later).keyword ≠ .endIf

section Suppression

variable {r : Runner σ} {runFile : FileRunner σ} {file : FileRun} {s : Session σ}
  {before block kept : List String} {text : String}

/-- Asking for files changes no variable and lets the run go on. -/
theorem askFiles_spec (line : Line) (s : Session σ) :
    (askFiles r line s).1.canContinue = true ∧ (askFiles r line s).2.store = s.store := by
  rw [askFiles]
  refine ⟨?_, s.store_sayAll _⟩
  dsimp only
  split_ifs
  · rfl
  · rfl

/-- **A line that is passed over leaves the run as it is** when it does not read as the end of the
condition and no required variable is missing. -/
theorem turn_passedOver (hmissing : file.missing? (layersOf file s) = none)
    (htext : (readLine r file s text).keyword ≠ .endIf) :
    turn r runFile true file text s = some (.on true file s) := by
  rw [turn]
  by_cases hblank : isBlankText text = true
  · rw [if_pos hblank, Bool.not_true, Bool.and_false]
    rfl
  · rw [if_neg hblank]
    dsimp only
    rw [hmissing]
    dsimp only
    rw [if_pos rfl, bne_iff_ne.mpr htext]

/-- Lines that are passed over leave the run as it is. -/
theorem turns_passedOver (hmissing : file.missing? (layersOf file s) = none)
    (hblock : ∀ later ∈ block, (readLine r file s later).keyword ≠ .endIf) :
    turns r runFile true file block s = some (.on true file s) := by
  induction block with
  | nil => rfl
  | cons text block ih =>
    rw [turns_cons, turn_passedOver hmissing (hblock text List.mem_cons_self)]
    exact ih fun later hlater => hblock later (List.mem_cons_of_mem text hlater)

/-- The line that asks for files begins the passing over, and no required variable is missing
after it. -/
theorem turn_ifExist {line : Line} {outcome : Outcome} {after : Option FileRun} {u : Session σ}
    (hline : lineAt? r false file text s = some line) (hcondition : line.keyword = .ifExist)
    (hperform : perform r runFile line (some file) (carrying r line s) = some (outcome, after, u))
    (hfalse : outcome.isTrue = false) :
    turn r runFile false file text s = some (.on true file u) ∧
      file.missing? (layersOf file u) = none := by
  obtain ⟨hgoes, hstore⟩ := askFiles_spec (r := r) line (carrying r line s)
  have hasked := hperform
  rw [perform, hcondition] at hasked
  obtain ⟨rfl, rfl, rfl⟩ : (askFiles r line (carrying r line s)).1 = outcome ∧
      some file = after ∧ (askFiles r line (carrying r line s)).2 = u := by
    simpa [Prod.ext_iff] using hasked
  constructor
  · rw [turn_of_lineAt hline, hperform, Option.map_some, Turn.ofDispatch, if_pos hgoes]
    simp [hcondition, hfalse]
  · -- the variables are those with which the line was dispatched
    have hlayers : layersOf file (askFiles r line (carrying r line s)).2 = layersOf file s := by
      rw [layersOf, hstore]
      rfl
    rw [hlayers]
    exact missing_of_lineAt hline

/-- **Lines under a condition that does not hold can be deleted.**  Both runs come to the same
session and file run before the lines that follow. -/
theorem Suppresses.turns_eq (h : Suppresses r runFile file s before text block)
    (hkept : kept.Sublist block) (rest : List String) :
    turns r runFile false file (before ++ text :: (kept ++ rest)) s =
      turns r runFile false file (before ++ text :: (block ++ rest)) s := by
  obtain ⟨file', t, line, outcome, after, u, hbefore, hline, hcondition, hperform, hfalse, hblock⟩ :=
    h
  obtain ⟨hturn, hmissing⟩ := turn_ifExist hline hcondition hperform hfalse
  have hskipped : turns r runFile true file' kept u = some (.on true file' u) :=
    turns_passedOver hmissing fun later hlater => hblock later (hkept.subset hlater)
  -- both runs come to the line, and pass over what follows it to the same lines
  rw [turns_append, turns_append, hbefore]
  dsimp only
  rw [turns_cons, turns_cons, hturn]
  dsimp only
  rw [turns_append, turns_append, hskipped, turns_passedOver hmissing hblock]

end Suppression

/-! ## The main statement -/

/-- **Suppressed blocks have no effect.**  Let a file run come to a line that asks for files and does
not find them all, and let no line of a block after it read as the end of the condition.  Then any
lines of the block can be deleted: whatever lines follow, the run has the same turns, with the same
session, trace and file run, so that the file and a whole script have the same outcome. -/
theorem suppressed_lines_deletable (r : Runner σ) (before : List String) (text : String)
    (block kept : List String) (hkept : kept.Sublist block) :
    (∀ runFile file s, Suppresses r runFile file s before text block → ∀ rest,
      turns r runFile false file (before ++ text :: (kept ++ rest)) s =
        turns r runFile false file (before ++ text :: (block ++ rest)) s) ∧
    (∀ depth name store s rest script script',
      Suppresses r (runFile r depth) { name, store } s before text block →
      scriptLines script = before ++ text :: (block ++ rest) →
      scriptLines script' = before ++ text :: (kept ++ rest) →
      (Place.start depth name store script' s).run r =
        (Place.start depth name store script s).run r) ∧
    ∀ name store s rest script script',
      Suppresses r (runFile r maxDepth) { name, store } { s with mode := .fileRun } before text
        block →
      scriptLines script = before ++ text :: (block ++ rest) →
      scriptLines script' = before ++ text :: (kept ++ rest) →
      r.runScript name script' store s = r.runScript name script store s := by
  refine ⟨fun runFile file s h rest => h.turns_eq hkept rest, ?_, ?_⟩
  · intro depth name store s rest script script' h hscript hscript'
    rw [Place.run, Place.run, Place.start, Place.start, runLines_eq, runLines_eq]
    dsimp only
    rw [hscript, hscript', h.turns_eq hkept rest]
  · intro name store s rest script script' h hscript hscript'
    rw [Runner.runScript, Runner.runScript, runLines_eq, runLines_eq, hscript, hscript',
      h.turns_eq hkept rest]

/-! ## A file that is not there -/

/-- The lines under a condition: a command, a blank line, a file to run and another condition. -/
def underCondition : List String := ["ls", "", "run other.txt", "ifexist third.txt"]

/-- Of the lines under a condition that does not hold, all but the blank one are deleted. -/
theorem suppressed_lines_deletable_underCondition :
    let r := tableRunner silentHost []
    let s : Session Unit := { r.newSession () with echo := true }
    let script := "ifexist missing.txt\nls\n\nrun other.txt\nifexist third.txt\nendif\npwd\n"
    let script' := "ifexist missing.txt\n\nendif\npwd\n"
    [""].Sublist underCondition ∧
      Suppresses r (runFile r maxDepth) { name := "check.txt" } { s with mode := .fileRun } []
        "ifexist missing.txt" underCondition ∧
      scriptLines script = "ifexist missing.txt" :: (underCondition ++ ["endif", "pwd"]) ∧
      scriptLines script' = "ifexist missing.txt" :: ([""] ++ ["endif", "pwd"]) ∧
      r.runScript "check.txt" script' {} s = r.runScript "check.txt" script {} s := by
  intro r s script script'
  have hkept : [""].Sublist underCondition := by decide
  have hsuppresses : Suppresses r (runFile r maxDepth) { name := "check.txt" }
      { s with mode := .fileRun } [] "ifexist missing.txt" underCondition := by
    let file : FileRun := { name := "check.txt" }
    let t : Session Unit := { s with mode := .fileRun }
    let line := Line.parse .builtin "ifexist missing.txt"
    let asked := askFiles r line (carrying r line t)
    have hcondition : line.keyword = .ifExist := by decide +kernel
    have hperform : perform r (runFile r maxDepth) line (some file) (carrying r line t) =
        some (asked.1, some file, asked.2) := by rw [perform, hcondition]
    exact ⟨file, t, line, asked.1, some file, asked.2, rfl, by decide +kernel, hcondition,
      hperform, by decide +kernel, by decide +kernel⟩
  have hscript : scriptLines script =
      [] ++ "ifexist missing.txt" :: (underCondition ++ ["endif", "pwd"]) := by decide +kernel
  have hscript' : scriptLines script' =
      [] ++ "ifexist missing.txt" :: ([""] ++ ["endif", "pwd"]) := by decide +kernel
  refine ⟨hkept, hsuppresses, hscript, hscript', ?_⟩
  obtain ⟨-, -, hruns⟩ :=
    suppressed_lines_deletable r [] "ifexist missing.txt" underCondition [""] hkept
  exact hruns "check.txt" {} s ["endif", "pwd"] script script' hsuppresses hscript hscript'

end ScriptedShell.Run
