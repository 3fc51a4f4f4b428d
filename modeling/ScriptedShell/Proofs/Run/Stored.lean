/-
# What a run stores

Only lines that declare or remove variables change those of the session, and what they make of them
can be read off the line (`store_perform`).  A file has the variables of the line that runs it, and
keeps them.  Since these lines have been read, the stores of a session that began without variables
have the shape of stores at every moment, and so have those of all files that are run on the way
(`stores_shaped`).
-/
import Mathlib
import ScriptedShell.Proofs.Run.Requirements
import ScriptedShell.Proofs.Variable.Shape

namespace ScriptedShell.Run

open Command Variable Text

variable {σ : Type}

/-! ## What one line stores -/

/-- What a line that runs no file makes of the variables of the session. -/
def storeAfter (line : Line) (store : Store) : Store :=
  match line.keyword with
  | .declare =>
    line.pairs.foldl (fun store (name, value) => store.declare (marked name) value) store
  | .remove => line.positionals.foldl (fun store key => (store.remove key).2) store
  | _ => store

section Lines

variable (r : Runner σ) (line : Line) (s : Session σ)

/-- Sending a line stores nothing. -/
theorem store_sendLine {t : Session σ} {outcome : Outcome}
    (h : sendLine r line s = some (outcome, t)) : t.store = s.store := by
  rw [sendLine_eq] at h
  dsimp only at h
  split at h
  all_goals cases h
  all_goals rfl

/-- Opening a session stores nothing. -/
theorem store_openSession : (openSession r line s).2.store = s.store := by
  rw [openSession]
  split_ifs
  · rfl
  · split <;> rfl

/-- Closing a session stores nothing. -/
theorem store_closeSession : (closeSession r s).2.store = s.store := by
  rw [closeSession]
  split <;> rfl

/-- Copying a file stores nothing. -/
theorem store_transferFile : (transferFile r line s).2.store = s.store := by
  rw [transferFile]
  split
  · rfl
  · exact Session.store_sayAll _ _

/-- Handing a script to the local shell stores nothing. -/
theorem store_invokeScript (script : String) (streamed : Bool) :
    (invokeScript r script streamed s).2.store = s.store :=
  (Session.store_sayAll _ _).trans (Session.store_takeInAll _ _ _ _)

/-- Beginning fixed-row mode stores nothing. -/
theorem store_beginFixedRows : (beginFixedRows r line s).2.store = s.store := by
  rw [beginFixedRows]
  cases line.positionals with
  | nil =>
    dsimp only
    rcases s.remote.enterRedraw r.around.host r.setup none with ⟨_ | _, remote⟩ <;> rfl
  | cons text rest =>
    dsimp only
    cases boundedNumber Remote.maxRow text.toList with
    | some row =>
      dsimp only
      rcases s.remote.enterRedraw r.around.host r.setup (some row) with ⟨_ | _, remote⟩ <;> rfl
    | none => rfl

/-- Declaring variables one after the other. -/
theorem store_declareAll (pairs : List (String × String)) :
    (declareAll pairs s).store =
      pairs.foldl (fun store (name, value) => store.declare (marked name) value) s.store := by
  induction pairs generalizing s with
  | nil => rfl
  | cons pair pairs ih => exact ih _

/-- A line that declares variables stores its pairs. -/
theorem store_declareVariables (file : Option FileRun) :
    (declareVariables line file s).2.store =
      line.pairs.foldl (fun store (name, value) => store.declare (marked name) value) s.store := by
  rw [declareVariables]
  split_ifs with hnone hnoPair
  · have hpairs : line.pairs = [] := by rw [Line.pairs, List.isEmpty_iff.mp hnone]; rfl
    rw [hpairs]
    rfl
  · rw [List.isEmpty_iff.mp hnoPair]
    exact Session.store_sayAll s _
  · exact store_declareAll s line.pairs

/-- Removing variables one after the other. -/
theorem store_removeAll (keys : List String) :
    (removeAll keys s).store = keys.foldl (fun store key => (store.remove key).2) s.store := by
  induction keys generalizing s with
  | nil => rfl
  | cons key keys ih =>
    rw [removeAll, List.foldl_cons]
    split
    all_goals
      next hremoved =>
        rw [ih, hremoved]
        rfl

/-- A line that removes variables removes those that it names. -/
theorem store_removeVariables :
    (removeVariables line s).2.store =
      line.positionals.foldl (fun store key => (store.remove key).2) s.store := by
  rw [removeVariables]
  split_ifs with hnone
  · rw [List.isEmpty_iff.mp hnone]
    rfl
  · exact store_removeAll s line.positionals

/-- Registering keys stores nothing. -/
theorem store_requireAll (keys : List String) (file : FileRun) :
    (requireAll keys file s).2.store = s.store := by
  induction keys generalizing file s with
  | nil => rfl
  | cons key keys ih =>
    rw [requireAll]
    split
    all_goals exact ih _ _

/-- Dropping keys stores nothing. -/
theorem store_unrequireAll (keys : List String) (file : FileRun) :
    (unrequireAll keys file s).2.store = s.store := by
  induction keys generalizing file s with
  | nil => rfl
  | cons key keys ih =>
    rw [unrequireAll]
    split
    all_goals exact ih _ _

end Lines

section Perform

variable {r : Runner σ} {runFile : FileRunner σ} {line : Line} {file : FileRun} {s t : Session σ}
  {outcome : Outcome}

/-- **What a line stores.**  One case for each command; only two of them store anything. -/
theorem store_perform {file after : Option FileRun} (hrun : line.keyword ≠ .run)
    (h : perform r runFile line file s = some (outcome, after, t)) :
    t.store = storeAfter line s.store := by
  rw [perform] at h
  rw [storeAfter]
  cases hkeyword : line.keyword <;> rw [hkeyword] at h
  case passthrough =>
    obtain ⟨⟨outcome', u⟩, hpassed, hkept⟩ := Option.map_eq_some_iff.mp h
    cases hkept
    rw [passOn] at hpassed
    split_ifs at hpassed
    · exact store_sendLine r line s hpassed
    · cases hpassed
      exact store_invokeScript r s line.raw s.stream
  case run => exact absurd hkeyword hrun
  case connect => cases h; exact store_openSession r line s
  case endConnect => cases h; exact store_closeSession r s
  case transfer => cases h; exact store_transferFile r line s
  case openPath => cases h; exact store_invokeScript r s _ false
  case back => cases h; exact store_invokeScript r s _ false
  case declare => cases h; exact store_declareVariables line s file
  case remove => cases h; exact store_removeVariables line s
  case require =>
    obtain ⟨-, -, rfl⟩ : outcome = .next ∧ _ := by simpa [Prod.ext_iff, eq_comm] using h
    cases file with
    | none => rfl
    | some file => exact store_requireAll s _ file
  case unrequire =>
    obtain ⟨-, -, rfl⟩ : outcome = .next ∧ _ := by simpa [Prod.ext_iff, eq_comm] using h
    cases file with
    | none => rfl
    | some file =>
      rw [unrequireVariables]
      dsimp only
      split_ifs
      · rfl
      · exact store_unrequireAll s _ file
  case ifExist => cases h; exact Session.store_sayAll s _
  case fixRow => cases h; exact store_beginFixedRows r line s
  -- the others switch modes or clear the screen
  all_goals
    cases h
    rfl

/-- A line leaves the variables of the file that dispatches it alone. -/
theorem file_store_perform {after : Option FileRun}
    (h : perform r runFile line (some file) s = some (outcome, after, t)) :
    ∃ file', after = some file' ∧ file'.store = file.store := by
  rw [perform] at h
  cases hkeyword : line.keyword <;> rw [hkeyword] at h
  case require =>
    cases h
    exact ⟨_, rfl, by rw [file_requireAll]⟩
  case unrequire =>
    rw [unrequireVariables] at h
    dsimp only at h
    split_ifs at h
    · cases h
      exact ⟨file, rfl, rfl⟩
    · cases h
      exact ⟨_, rfl, by rw [file_unrequireAll]⟩
  case passthrough =>
    obtain ⟨done, -, hkept⟩ := Option.map_eq_some_iff.mp h
    cases hkept
    exact ⟨file, rfl, rfl⟩
  case run =>
    obtain ⟨done, -, hkept⟩ := Option.map_eq_some_iff.mp h
    cases hkept
    exact ⟨file, rfl, rfl⟩
  all_goals
    cases h
    exact ⟨file, rfl, rfl⟩

end Perform

/-! ## Shapes -/

section Shapes

variable {r : Runner σ} {line : Line} {p q : Place σ} {names : List String}

/-- **A line that has been read keeps the shape of a store.** -/
theorem isShaped_storeAfter (hread : IsRead r line) {store : Store} (h : store.IsShaped) :
    (storeAfter line store).IsShaped := by
  obtain ⟨text, rfl⟩ := hread
  rw [storeAfter]
  split
  · -- the names are marked, which adds no blank
    have hpairs : ∀ pair ∈ (Line.parse r.policies text).pairs.map fun (name, value) =>
        (marked name, value), (∀ c ∈ pair.1.toList, isBlank c = false) ∧ IsValue pair.2 := by
      intro pair hpair
      obtain ⟨⟨name, value⟩, hmem, rfl⟩ := List.mem_map.mp hpair
      obtain ⟨hname, hvalue⟩ := shape_of_mem_pairs r.policies text hmem
      exact ⟨not_blank_of_mem_marked hname.2, hvalue⟩
    have hshaped := h.foldl_declare hpairs
    rwa [List.foldl_map] at hshaped
  · generalize (Line.parse r.policies text).positionals = keys
    induction keys generalizing store with
    | nil => exact h
    | cons key keys ih => exact ih (h.remove key)
  · exact h

/-- **Runs keep the shape of the variables of the session.** -/
theorem carried_isShaped (r : Runner σ) :
    Carried r fun _ s t => s.store.IsShaped → t.store.IsShaped where
  refl s := id
  trans h h' := h' ∘ h
  weaken h := h
  say _ h := h
  remote _ hstore _ h := by rwa [hstore]
  started s name store := id
  pause s := id
  runs s line _ := id
  perform hread hrun h hs := by
    rw [store_perform hrun h]
    exact isShaped_storeAfter hread hs

/-- The next line of a file finds the same variables of the file. -/
theorem Place.file_store_of_next (h : p.next? r = some q) : q.file.store = p.file.store := by
  obtain ⟨depth, suppress, file, _ | ⟨text, lines⟩, s⟩ := p
  · cases h
  · rw [Place.next?] at h
    split at h
    · next suppress' file' t hturn =>
      cases h
      obtain ⟨-, later, u, hx, -⟩ | ⟨key, -, -, hx⟩ | ⟨line, done, -, hdone, hx⟩ :=
        turn_cases hturn
      · cases hx
        rfl
      · cases hx
      · obtain ⟨outcome, after, u⟩ := done
        obtain ⟨file'', rfl, hstore⟩ := file_store_perform hdone
        rw [Turn.ofDispatch] at hx
        split_ifs at hx
        cases hx
        exact hstore
    · cases h

/-- A file has the variables of the line that runs it. -/
theorem isShaped_of_opens {s : Session σ} {depth : Nat} {name : String} (hread : IsRead r line)
    (h : Opens r line s depth name p) : p.file.store.IsShaped := by
  have hline : line.store.IsShaped := by
    obtain ⟨text, rfl⟩ := hread
    exact isShaped_store r.policies text
  cases h
  exact hline

/-- **Files that are run from a file** have stores with a shape if this one has. -/
theorem isShaped_of_comes (h : Comes r p names q) (hp : p.file.store.IsShaped) :
    q.file.store.IsShaped := by
  induction h with
  | here p => exact hp
  | next hnext _ ih => exact ih (by rwa [Place.file_store_of_next hnext])
  | enter hline _ hopens _ ih => exact ih (isShaped_of_opens (Place.line_parse hline) hopens)

end Shapes

/-! ## Whole sessions -/

/-- Whether a session can have come of typed lines, from a new session: each line has been run to
its end, however deep files may run inside each other, and between two lines the host may deliver,
and the world may change. -/
inductive Reached (r : Runner σ) : Session σ → Prop
  | new (world : σ) : Reached r (r.newSession world)
  | line {s t : Session σ} {text : String} {depth : Nat} {outcome : Outcome} :
      Reached r s → (Call.line text).run r depth s = some (outcome, t) → Reached r t
  | delivered {s : Session σ} (ds : List Remote.Delivery) :
      Reached r s → Reached r (s.deliverAll r ds)
  | changed {s : Session σ} (world : σ) :
      Reached r s → Reached r { s with remote := { s.remote with world } }

/-- Lines that are run with the bound of the program are among them. -/
theorem Reached.runLine {r : Runner σ} {s t : Session σ} {text : String} {outcome : Outcome}
    (h : Reached r s) (hran : r.runLine text s = some (outcome, t)) : Reached r t := by
  rw [Call.run_line] at hran
  exact .line h hran

/-- **Stored variables have a shape.**  In every session that has come of typed lines, under any
policies, the keys of the variables carry the marker, hold no blank and are distinct, and their
values are words without a dash, at least one, with single spaces between them.  So it is also at
each place to which a typed line comes through the files that it runs, however deep and whether or
not it ever ends, and the variables of the file there are of this shape as well. -/
theorem stores_shaped (r : Runner σ) {s : Session σ} (h : Reached r s) :
    s.store.IsShaped ∧
      ∀ (depth : Nat) (text : String) (names : List String) (p : Place σ),
        (Call.line text).Comes r depth s names p →
          p.session.store.IsShaped ∧ p.file.store.IsShaped := by
  have hsession : s.store.IsShaped := by
    induction h with
    | new world => exact .empty
    | line _ hran ih => exact (carried_isShaped r).call_run hran ih
    | delivered ds _ ih => exact ih
    | changed world _ ih => exact ih
  refine ⟨hsession, fun depth text names p hcomes => ?_⟩
  refine ⟨(carried_isShaped r).call_comes hcomes hsession, ?_⟩
  cases hcomes with
  | @line text name line names q _ hline _ hopens hcomes =>
    have hread : IsRead r line := by
      rw [Call.line?] at hline
      split_ifs at hline
      rw [← Option.some.inj hline]
      exact isRead_resolveLine r text _
    exact isShaped_of_comes hcomes (isShaped_of_opens hread hopens)

/-- A typed line declares a variable of two words, and another one runs a file with a variable of
its own, in which a third one is declared from the first. -/
theorem stores_shaped_nested :
    let r := tableRunner silentHost [("env.txt", "var dir \x7bbase\x7d  v2\n")]
    ∃ s names p, Reached r s ∧ s.store.entries = [("-@base", "/srv a")] ∧
      (Call.line "run env.txt -@x 1").Comes r maxDepth s names p ∧
      p.session.store.entries = [("-@base", "/srv a"), ("-@dir", "/srv a v2")] ∧
      p.file.store.entries = [("-@x", "1")] ∧ p.session.store.IsShaped ∧ p.file.store.IsShaped := by
  intro r
  let done := (r.runLine "var -@base  /srv a" (r.newSession ())).get (by decide +kernel)
  let s := done.2
  have hs : Reached r s := Reached.runLine (.new ()) (Option.some_get _).symm
  let line := Line.parse .builtin "run env.txt -@x 1"
  have hline : (Call.line "run env.txt -@x 1").line? r s = some line := by decide +kernel
  let start : Place Unit := .start 999 "env.txt" line.store "var dir \x7bbase\x7d  v2\n"
    (begun "env.txt" line.store { Call.carrying r line s with mode := .fileRun })
  have hfiles : filesOf line = ["env.txt"] := by decide +kernel
  have hopens : Opens r line (Call.carrying r line s) maxDepth "env.txt" start :=
    .first hfiles (by decide +kernel) (by decide +kernel)
  let p : Place Unit := (start.next? r).get (by decide +kernel)
  have hcomes : (Call.line "run env.txt -@x 1").Comes r maxDepth s ([] ++ ["env.txt"]) p :=
    .line hline (by decide +kernel) hopens (.next (Option.some_get _).symm (.here p))
  obtain ⟨-, hplaces⟩ := stores_shaped r hs
  exact ⟨s, _, p, hs, by decide +kernel, hcomes, by decide +kernel, by decide +kernel,
    hplaces _ _ _ p hcomes⟩

end ScriptedShell.Run
