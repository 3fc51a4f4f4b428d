/-
# Lines that run files

The arguments of a line that runs files name them, bare or after the file flag, and give values to
variables.  The line groups them as they stand (`reads_of_words`), so that it runs the files that it
names and no others, and each of them starts with the variables that the line declared last.  Their
order is not that of the line: the files after the flag come first, which is the order of the line
when no bare name stands before a flag (`flagged_append_bare_of_inOrder`), and for different names
only then (`inOrder_of_flagged_append_bare`).  The files are run one after the other, up to the
first that halts (`StartsEach`).
-/
import Mathlib
import ScriptedShell.Proofs.Command.Masking
import ScriptedShell.Proofs.Command.Positions
import ScriptedShell.Proofs.Run.Halting
import ScriptedShell.Proofs.Variable.Histories

namespace ScriptedShell.Run

open Command Variable Text

/-! ## Arguments -/

/-- An argument of a line that runs files. -/
inductive Import where
  /-- A file by its name alone. -/
  | bare (name : String)
  /-- A file by its name after the file flag. -/
  | flagged (name : String)
  /-- The value of a variable. -/
  | declared (key value : String)
  deriving Repr, DecidableEq

namespace Import

/-- The words of an argument. -/
def words : Import → List String
  | bare name => [name]
  | flagged name => ["-f", name]
  | declared key value => [key, value]

/-- Whether the words are what they are meant as: only keys have a dash, and they have the variable
marker. -/
def IsPlain : Import → Prop
  | bare name | flagged name => startsWith name "-" = false
  | declared key value => startsWith key variableMarker = true ∧ startsWith value "-" = false

instance : DecidablePred IsPlain
  | bare name => inferInstanceAs (Decidable (startsWith name "-" = false))
  | flagged name => inferInstanceAs (Decidable (startsWith name "-" = false))
  | declared key value =>
    inferInstanceAs (Decidable (startsWith key variableMarker = true ∧ startsWith value "-" = false))

/-- The file that an argument names. -/
def file? : Import → Option String
  | bare name | flagged name => some name
  | declared _ _ => none

/-- The file that an argument names after the file flag. -/
def flagged? : Import → Option String
  | flagged name => some name
  | _ => none

/-- The file that an argument names by its name alone. -/
def bare? : Import → Option String
  | bare name => some name
  | _ => none

/-- The key and the value that an argument gives. -/
def pair? : Import → Option (String × String)
  | declared key value => some (key, value)
  | _ => none

/-- The change that an argument makes to variables. -/
def change? : Import → Option Change
  | declared key value => some (.declared key value)
  | _ => none

/-- Whether two arguments are no bare name and then a name after the file flag. -/
def InOrder (first second : Import) : Prop := first.bare? = none ∨ second.flagged? = none

end Import

/-! ## What a line says -/

/-- Whether the arguments of a line are the given ones, each of them a part of its own. -/
def Reads (line : Line) (imports : List Import) : Prop :=
  line.arguments.map Part.words = imports.map Import.words

section Line

variable {text name : String} {line : Line} {imports : List Import}

/-- Arguments are grouped as they stand. -/
theorem groupWords_imports (h : ∀ i ∈ imports, i.IsPlain) :
    groupWords .valueMustStartWithDash (imports.flatMap Import.words) =
      imports.map Import.words := by
  have haccepts : ∀ word, CaptureRule.accepts .valueMustStartWithDash word = startsWith word "-" :=
    fun word => rfl
  have hkeeps : CaptureRule.keepsCapturing .valueMustStartWithDash = false := rfl
  induction imports with
  | nil => rfl
  | cons i imports ih =>
    obtain ⟨hplain, hrest⟩ := List.forall_mem_cons.mp h
    rw [List.map_cons, ← ih hrest, List.flatMap_cons]
    cases i with
    | bare name => exact groupWords_cons_of_not_accepts ((haccepts name).trans hplain) _
    | flagged name =>
      -- the flag takes the name for its value, and nothing after it
      exact groupWords_cons_value hplain (by decide) hkeeps _
    | declared key value =>
      have hkey : startsWith key "-" = true := startsWith_of_append "@" hplain.1
      exact groupWords_cons_value hplain.2 ((haccepts key).trans hkey) hkeeps _

/-- **Each argument is a part of the line.** -/
theorem reads_of_words (hname : Keyword.ofWord name = .run)
    (hwords : wordsOf text = name :: imports.flatMap Import.words)
    (hplain : ∀ i ∈ imports, i.IsPlain) : Reads (.parse .builtin text) imports := by
  have hpolicy : PolicyTable.builtin .run = ⟨.valueMustStartWithDash, 0⟩ := rfl
  have hgroups : (Line.parse .builtin text).parts.map Part.words =
      [name] :: imports.map Import.words := by
    rw [Line.parse, map_words_mapIdx, wordsOf_trimmed, hwords, groupLine_cons, hname, hpolicy,
      List.take_zero, List.drop_zero, groupWords_imports hplain]
    rfl
  rw [Reads, Line.arguments, List.map_drop, hgroups]
  rfl

/-- What is read off the words of the parts is read off those of the arguments. -/
theorem Reads.map_arguments (h : Reads line imports) :
    line.arguments.map (fun part => Command.Part.mk 0 part.words) =
      imports.map fun i => Command.Part.mk 0 i.words := by
  have hparts := congrArg (List.map (Command.Part.mk 0)) h
  rwa [List.map_map, List.map_map] at hparts

/-- The bare names are the arguments without a value. -/
theorem Reads.positionals (h : Reads line imports) :
    line.positionals = imports.filterMap Import.bare? := by
  have hpositionals : line.positionals =
      ((line.arguments.map fun part => Command.Part.mk 0 part.words).filter fun part =>
        part.key?.isNone).map Part.value := by
    rw [List.filter_map, List.map_map]
    rfl
  rw [hpositionals, h.map_arguments]
  -- from here on only the given arguments count, not the line
  clear h
  induction imports with
  | nil => rfl
  | cons i imports ih =>
    cases i with
    | bare name => exact congrArg (List.cons name) ih
    | flagged name => exact ih
    | declared key value => exact ih

/-- The names after the file flag are its values. -/
theorem Reads.valuesOf (h : Reads line imports) (hplain : ∀ i ∈ imports, i.IsPlain) :
    line.valuesOf "-f" = imports.filterMap Import.flagged? := by
  have hvalues : line.valuesOf "-f" =
      ((line.arguments.map fun part => Command.Part.mk 0 part.words).filter fun part =>
        part.hasKey "-f").map Part.value := by
    rw [List.filter_map, List.map_map]
    rfl
  rw [hvalues, h.map_arguments]
  clear h
  induction imports with
  | nil => rfl
  | cons i imports ih =>
    obtain ⟨hfirst, hrest⟩ := List.forall_mem_cons.mp hplain
    cases i with
    | bare name => exact ih hrest
    | flagged name => exact congrArg (List.cons name) (ih hrest)
    | declared key value =>
      -- the file flag names no variable
      have hkey : ¬(Command.Part.mk 0 (Import.declared key value).words).hasKey "-f" = true := by
        rw [Part.hasKey, decide_eq_true_iff]
        rintro ⟨⟩
        exact absurd hfirst.1 (by decide)
      rw [List.map_cons, List.filter_cons, if_neg hkey]
      exact ih hrest

/-- The variables of the line are those of its arguments. -/
theorem Reads.pairs (h : Reads line imports) (hplain : ∀ i ∈ imports, i.IsPlain) :
    (line.pairs.filter fun (key, _) => startsWith key variableMarker) =
      imports.filterMap Import.pair? := by
  have hpairs : line.pairs =
      (line.arguments.map fun part => Command.Part.mk 0 part.words).filterMap fun part =>
        part.key?.map fun key => (key, part.value) := by
    rw [List.filterMap_map]
    rfl
  rw [hpairs, h.map_arguments]
  clear h
  induction imports with
  | nil => rfl
  | cons i imports ih =>
    obtain ⟨hfirst, hrest⟩ := List.forall_mem_cons.mp hplain
    cases i with
    | bare name => exact ih hrest
    | flagged name => exact ih hrest
    | declared key value =>
      have hkey : startsWith key variableMarker = true := hfirst.1
      simp only [List.map_cons, Import.words, List.filterMap_cons, Part.key?, Part.value,
        Option.map_some, List.filter_cons, hkey, if_true, Import.pair?]
      exact congrArg (List.cons (key, value)) (ih hrest)

end Line

/-! ## Files in order -/

section Order

variable {imports : List Import}

/-- Names after the flag and bare names are all names, in another order. -/
theorem flagged_append_bare_perm (imports : List Import) :
    (imports.filterMap Import.flagged? ++ imports.filterMap Import.bare?).Perm
      (imports.filterMap Import.file?) := by
  induction imports with
  | nil => rfl
  | cons i imports ih =>
    cases i with
    | bare name =>
      simp only [List.filterMap_cons, Import.flagged?, Import.bare?, Import.file?]
      exact List.perm_middle.trans (ih.cons name)
    | flagged name =>
      simp only [List.filterMap_cons, Import.flagged?, Import.bare?, Import.file?]
      exact ih.cons name
    | declared key value =>
      simpa only [List.filterMap_cons, Import.flagged?, Import.bare?, Import.file?] using ih

/-- Where no bare name stands before a flag, the names after flags come first on the line. -/
theorem flagged_append_bare_of_inOrder (h : imports.Pairwise Import.InOrder) :
    imports.filterMap Import.flagged? ++ imports.filterMap Import.bare? =
      imports.filterMap Import.file? := by
  induction imports with
  | nil => rfl
  | cons i imports ih =>
    obtain ⟨hfirst, hrest⟩ := List.pairwise_cons.mp h
    have hrest := ih hrest
    cases i with
    | bare name =>
      -- no flag follows, so that all names that follow are bare
      have hnone : imports.filterMap Import.flagged? = [] := by
        rw [List.filterMap_eq_nil_iff]
        intro j hj
        exact (hfirst j hj).resolve_left (by simp [Import.bare?])
      rw [hnone, List.nil_append] at hrest
      simp only [List.filterMap_cons, Import.flagged?, Import.bare?, Import.file?]
      rw [hnone, List.nil_append, hrest]
    | flagged name =>
      simp only [List.filterMap_cons, Import.flagged?, Import.bare?, Import.file?]
      rw [List.cons_append, hrest]
    | declared key value =>
      simp only [List.filterMap_cons, Import.flagged?, Import.bare?, Import.file?]
      exact hrest

/-- Names that are all different are in the order of the line only if no bare name stands before a
flag. -/
theorem inOrder_of_flagged_append_bare (hdistinct : (imports.filterMap Import.file?).Nodup)
    (h : imports.filterMap Import.flagged? ++ imports.filterMap Import.bare? =
      imports.filterMap Import.file?) : imports.Pairwise Import.InOrder := by
  induction imports with
  | nil => exact .nil
  | cons i imports ih =>
    rw [List.pairwise_cons]
    cases i with
    | bare name =>
      simp only [List.filterMap_cons, Import.flagged?, Import.bare?, Import.file?] at h hdistinct
      obtain ⟨hname, hrest⟩ := List.nodup_cons.mp hdistinct
      rcases hflagged : imports.filterMap Import.flagged? with _ | ⟨first, others⟩
      · rw [hflagged, List.nil_append, List.cons.injEq] at h
        rw [hflagged, List.nil_append] at ih
        refine ⟨fun j hj => .inr ?_, ih hrest h.2⟩
        exact List.filterMap_eq_nil_iff.mp hflagged j hj
      · -- the name after the flag comes first, where the bare name is expected
        have hfirst : first ∈ imports.filterMap Import.file? := by
          rw [← (flagged_append_bare_perm imports).mem_iff, hflagged]
          exact List.mem_cons_self
        rw [hflagged, List.cons_append, List.cons.injEq] at h
        exact absurd (h.1 ▸ hfirst) hname
    | flagged name =>
      simp only [List.filterMap_cons, Import.flagged?, Import.bare?, Import.file?] at h hdistinct
      rw [List.cons_append, List.cons.injEq] at h
      exact ⟨fun j _ => .inl rfl, ih (List.nodup_cons.mp hdistinct).2 h.2⟩
    | declared key value =>
      simp only [List.filterMap_cons, Import.flagged?, Import.bare?, Import.file?] at h hdistinct
      exact ⟨fun j _ => .inl rfl, ih hdistinct h⟩

end Order

/-! ## Variables -/

/-- The store of declarations whose names have the marker is what their changes make. -/
theorem ofList_eq_ofChanges {pairs : List (String × String)}
    (h : ∀ pair ∈ pairs, startsWith pair.1 variableMarker = true) :
    Store.ofList pairs = .ofChanges (pairs.map fun pair => .declared pair.1 pair.2) := by
  induction pairs using List.reverseRecOn with
  | nil => rfl
  | append_singleton pairs pair ih =>
    rw [List.forall_mem_append, List.forall_mem_singleton] at h
    have hmarked : marked pair.1 = pair.1 := if_pos h.2
    have hlast : Store.ofList (pairs ++ [pair]) = (Store.ofList pairs).declare pair.1 pair.2 :=
      List.foldl_concat ..
    rw [List.map_append, List.map_singleton, Store.ofChanges_concat, ← ih h.1, hlast, Store.declare,
      hmarked]
    rfl

/-- The changes of arguments are those of the pairs that they give. -/
theorem filterMap_change? (imports : List Import) :
    imports.filterMap Import.change? =
      (imports.filterMap Import.pair?).map fun pair => .declared pair.1 pair.2 := by
  rw [List.map_filterMap]
  congr 1
  funext i
  cases i <;> rfl

/-- The store of a line is what its arguments make of a new one. -/
theorem Reads.store {line : Line} {imports : List Import} (h : Reads line imports)
    (hplain : ∀ i ∈ imports, i.IsPlain) :
    line.store = .ofChanges (imports.filterMap Import.change?) := by
  have hpairs := h.pairs hplain
  rw [Line.store, hpairs, filterMap_change?]
  refine ofList_eq_ofChanges fun pair hpair => ?_
  rw [← hpairs, List.mem_filter] at hpair
  exact hpair.2

/-! ## Running files -/

/-- Whether files, run one after the other with the same variables, are started up to the first that
halts: those that are started, and the result. -/
inductive StartsEach (runFile : FileRunner σ) (store : Store) :
    Outcome → Session σ → List String → List String → Option (Outcome × Session σ) → Prop
  /-- No file is left. -/
  | done {last : Outcome} {s : Session σ} : StartsEach runFile store last s [] [] (some (last, s))
  /-- A file lets the run go on. -/
  | goesOn {last outcome : Outcome} {s t : Session σ} {name : String}
      {names started : List String} {result : Option (Outcome × Session σ)} :
      runFile name store s = some (outcome, t) → outcome.canContinue = true →
      StartsEach runFile store outcome t names started result →
      StartsEach runFile store last s (name :: names) (name :: started) result
  /-- A file halts, and no other is started. -/
  | halts {last outcome : Outcome} {s t : Session σ} {name : String} {names : List String} :
      runFile name store s = some (outcome, t) → outcome.canContinue = false →
      StartsEach runFile store last s (name :: names) [name] (some (outcome, t))
  /-- The run of a file does not end. -/
  | endless {last : Outcome} {s : Session σ} {name : String} {names : List String} :
      runFile name store s = none →
      StartsEach runFile store last s (name :: names) [name] none

section Starts

variable {runFile : FileRunner σ} {r : Runner σ} {store : Store} {last outcome : Outcome}
  {s t : Session σ} {names started : List String} {result : Option (Outcome × Session σ)}

/-- **Files in order are started up to the first that halts.** -/
theorem exists_startsEach (runFile : FileRunner σ) (store : Store) (last : Outcome)
    (names : List String) (s : Session σ) :
    ∃ started, StartsEach runFile store last s names started
      (importEach runFile store last names s) := by
  induction names generalizing last s with
  | nil => exact ⟨[], .done⟩
  | cons name names ih =>
    rw [importEach]
    rcases hfile : runFile name store s with _ | ⟨outcome, t⟩
    · exact ⟨[name], .endless hfile⟩
    · dsimp only
      split_ifs with hgoes
      · obtain ⟨started, hstarts⟩ := ih outcome t
        exact ⟨name :: started, .goesOn hfile hgoes hstarts⟩
      · exact ⟨[name], .halts hfile (by simpa using hgoes)⟩

/-- The files that are started are the first ones, and all of them unless one halts. -/
theorem StartsEach.isPrefix (h : StartsEach runFile store last s names started result) :
    started <+: names ∧ (started = names ∨ result = none ∨
      ∃ outcome t, result = some (outcome, t) ∧ outcome.canContinue = false) := by
  induction h with
  | done => exact ⟨List.prefix_rfl, .inl rfl⟩
  | goesOn _ _ _ ih =>
    refine ⟨List.cons_prefix_cons.mpr ⟨rfl, ih.1⟩, ih.2.imp_left ?_⟩
    rintro rfl
    rfl
  | halts hfile hhalts => exact ⟨by simp, .inr (.inr ⟨_, _, rfl, hhalts⟩)⟩
  | endless hfile => exact ⟨by simp, .inr (.inl rfl)⟩

/-- Whether activities begin with the start of a file. -/
def BeginsFile (store : Store) (name : String) (block : List Activity) : Prop :=
  ∃ acts, block = .started name store :: acts

/-- The trace goes on with one block for each file that is started, in order. -/
theorem StartsEach.trace {depth : Nat}
    (h : StartsEach (Run.runFile r depth) store last s names started (some (outcome, t))) :
    ∃ blocks, List.Forall₂ (BeginsFile store) started blocks ∧
      t.remote.trace = s.remote.trace ++ blocks.flatten := by
  have hblock : ∀ {name : String} {s t : Session σ} {outcome : Outcome},
      Run.runFile r depth name store s = some (outcome, t) →
      ∃ block, BeginsFile store name block ∧ t.remote.trace = s.remote.trace ++ block := by
    intro name s t outcome hfile
    cases depth with
    | zero => cases hfile
    | succ depth =>
      obtain ⟨acts, hacts⟩ := trace_of_runFile hfile
      exact ⟨_, ⟨acts, rfl⟩, hacts⟩
  generalize hresult : some (outcome, t) = result at h
  induction h with
  | done =>
    cases hresult
    exact ⟨[], .nil, (List.append_nil _).symm⟩
  | goesOn hfile _ _ ih =>
    obtain ⟨block, hbegins, hfirst⟩ := hblock hfile
    obtain ⟨blocks, hblocks, hrest⟩ := ih hresult
    refine ⟨block :: blocks, .cons hbegins hblocks, ?_⟩
    rw [hrest, hfirst, List.flatten_cons, List.append_assoc]
  | halts hfile _ =>
    -- the block of the file that halts is the last one
    cases hresult
    obtain ⟨block, hbegins, hfirst⟩ := hblock hfile
    exact ⟨[block], .cons hbegins .nil, by simpa using hfirst⟩
  | endless => cases hresult

/-- A line that names files runs them, and takes the mode back. -/
theorem perform_of_files {line : Line} (hrun : line.keyword = .run) (hfiles : filesOf line ≠ [])
    (file : Option FileRun) (s : Session σ) :
    perform r runFile line file s =
      (importEach runFile line.store .next (filesOf line) { s with mode := .fileRun }).map
        fun (outcome, t) => (outcome, file, { t with mode := s.mode }) := by
  rw [perform_run hrun, importFiles, if_neg (by simpa using hfiles)]
  cases importEach runFile line.store .next (filesOf line) { s with mode := .fileRun } <;> rfl

end Starts

/-! ## The main statement -/

/-- **What a line that runs files starts.**  Let the words of a line, its references resolved, be
the word that runs files and then bare names, names after the file flag and values of variables, in
any order.  The files that it names are the ones that it runs, each as often as it is named: those
after the flag first and then the bare ones, which is the order of the line if no bare name stands
before a flag, and only then if the names are different.  They are started in this order, up to the
first that halts, with the variables of the line as they were declared last. -/
theorem run_line_starts {r : Runner σ} {line : Line} {name : String} {imports : List Import}
    (hpolicies : r.policies = .builtin) (hread : IsRead r line)
    (hname : Keyword.ofWord name = .run)
    (hwords : line.parts.flatMap Part.words = name :: imports.flatMap Import.words)
    (hplain : ∀ i ∈ imports, i.IsPlain) (hfiles : imports.filterMap Import.file? ≠ []) :
    filesOf line = imports.filterMap Import.flagged? ++ imports.filterMap Import.bare? ∧
      (filesOf line).Perm (imports.filterMap Import.file?) ∧
      (imports.Pairwise Import.InOrder → filesOf line = imports.filterMap Import.file?) ∧
      ((imports.filterMap Import.file?).Nodup → filesOf line = imports.filterMap Import.file? →
        imports.Pairwise Import.InOrder) ∧
      (∀ key value, (key, value) ∈ line.store.entries ↔
        LastDeclared (imports.filterMap Import.change?) key value) ∧
      line.store.keys.Nodup ∧
      ∀ depth file s, ∃ started result,
        StartsEach (runFile r depth) line.store .next { s with mode := .fileRun } (filesOf line)
          started result ∧
        started <+: filesOf line ∧
        (started = filesOf line ∨ result = none ∨
          ∃ outcome t, result = some (outcome, t) ∧ outcome.canContinue = false) ∧
        perform r (runFile r depth) line file s = result.map
          (fun (outcome, t) => (outcome, file, { t with mode := s.mode })) ∧
        ∀ outcome t, result = some (outcome, t) →
          ∃ blocks, List.Forall₂ (BeginsFile line.store) started blocks ∧
            t.remote.trace = s.remote.trace ++ blocks.flatten := by
  obtain ⟨text, rfl⟩ := hread
  rw [hpolicies] at hwords ⊢
  rw [words_parse] at hwords
  have hreads : Reads (.parse .builtin text) imports := reads_of_words hname hwords hplain
  have heq : filesOf (.parse .builtin text) =
      imports.filterMap Import.flagged? ++ imports.filterMap Import.bare? := by
    rw [filesOf, hreads.valuesOf hplain, hreads.positionals]
  have hperm := flagged_append_bare_perm imports
  have hrun : (Line.parse .builtin text).keyword = .run := (keyword_parse hwords).trans hname
  rw [hreads.store hplain]
  refine ⟨heq, heq ▸ hperm, ?_, ?_, fun _ _ => Store.mem_entries_iff, Store.nodup_keys _, ?_⟩
  · intro horder
    rw [heq, flagged_append_bare_of_inOrder horder]
  · intro hdistinct hsame
    exact inOrder_of_flagged_append_bare hdistinct (heq.symm.trans hsame)
  · intro depth file s
    have hsome : filesOf (.parse .builtin text) ≠ [] := by
      intro hnone
      rw [← heq, hnone] at hperm
      exact hfiles (List.nil_perm.mp hperm)
    obtain ⟨started, hstarts⟩ := exists_startsEach (runFile r depth)
      (.ofChanges (imports.filterMap Import.change?)) .next (filesOf (.parse .builtin text))
      { s with mode := .fileRun }
    refine ⟨started, _, hstarts, hstarts.isPrefix.1, hstarts.isPrefix.2, ?_, ?_⟩
    · rw [perform_of_files hrun hsome, hreads.store hplain]
    · intro outcome t hresult
      rw [hresult] at hstarts
      exact hstarts.trace

/-- Two files. -/
def twoFiles : List (String × String) := [("a.txt", "echo A"), ("b.txt", "echo B")]

/-- A file after the flag, a variable that is given twice, and a bare name. -/
theorem run_line_starts_twoFiles :
    let r := tableRunner silentHost twoFiles
    let line := Line.parse .builtin "run -f a.txt -@x 1 b.txt -@x 2"
    let s := r.newSession ()
    filesOf line = ["a.txt", "b.txt"] ∧ ("-@x", "2") ∈ line.store.entries ∧
      ∃ started result,
        StartsEach (runFile r maxDepth) line.store .next { s with mode := .fileRun }
          ["a.txt", "b.txt"] started result := by
  intro r line s
  let imports : List Import :=
    [.flagged "a.txt", .declared "-@x" "1", .bare "b.txt", .declared "-@x" "2"]
  have hread : IsRead r line := ⟨_, rfl⟩
  have hname : Keyword.ofWord "run" = .run := by decide +kernel
  have hwords : line.parts.flatMap Part.words = "run" :: imports.flatMap Import.words := by
    decide +kernel
  have hplain : ∀ i ∈ imports, i.IsPlain := by decide
  obtain ⟨-, -, horder, -, hstore, -, hstarts⟩ :=
    run_line_starts (rfl : r.policies = .builtin) hread hname hwords hplain (by decide)
  have hfiles : filesOf line = ["a.txt", "b.txt"] := by
    refine horder ?_
    simp [imports, Import.InOrder, Import.bare?, Import.flagged?]
  refine ⟨hfiles, (hstore "-@x" "2").mpr ⟨[.declared "-@x" "1"], [], rfl, by simp⟩, ?_⟩
  obtain ⟨started, result, hstarted, -⟩ := hstarts maxDepth none s
  rw [hfiles] at hstarted
  exact ⟨started, result, hstarted⟩

/-- The file that an activity starts. -/
def started? : Activity → Option String
  | .started name _ => some name
  | _ => none

/-- A bare name before a flag: the file after the flag is run first. -/
theorem flagged_file_before_bare :
    let r := tableRunner silentHost twoFiles
    let imports : List Import := [.bare "a.txt", .flagged "b.txt"]
    (Line.parse .builtin "run a.txt -f b.txt").parts.flatMap Part.words =
        "run" :: imports.flatMap Import.words ∧
      imports.filterMap Import.file? = ["a.txt", "b.txt"] ∧
      ((Call.line "run a.txt -f b.txt").result r (r.newSession ())).map
        (fun (_, t) => t.remote.trace.filterMap started?) = some ["b.txt", "a.txt"] := by
  decide +kernel

end ScriptedShell.Run
