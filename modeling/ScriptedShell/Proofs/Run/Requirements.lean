/-
# Required variables

A file run keeps a list of keys that have to be declared before its lines run.  Under the builtin
policies the list is what the lines that the file has dispatched by itself say
(`Through.file_eq`): each line that requires variables registers its words, marked, in order and
none twice, and each line that drops them takes its words out.  At a line that is not blank all keys
on the list are looked for first, in the session and in the variables of the file; if one is not
there the file stops with a message that names the first one.
-/
import Mathlib
import ScriptedShell.Proofs.Run.Halting

namespace ScriptedShell.Run

open Command Variable Text

variable {σ : Type}

/-! ## Keys on a line -/

/-- The variables that a line names: its words after the command, with the marker. -/
def keysOf (line : Line) : List String := (wordsOf line.raw).tail.map marked

/-- Under a rule by which no word takes a value each word is a group. -/
theorem groupFrom_alwaysSingle (word : String) (rest : List String) :
    groupFrom .alwaysSingle [word] rest = (word :: rest).map fun word => [word] := by
  induction rest generalizing word with
  | nil => rfl
  | cons next rest ih =>
    have hsingle : joins .alwaysSingle [word] next = false := Bool.and_false _
    rw [groupFrom, if_neg (by simp [hsingle]), ih]
    rfl

/-- Under a rule by which no word takes a value each word is a group. -/
theorem groupWords_alwaysSingle (ws : List String) :
    groupWords .alwaysSingle ws = ws.map fun word => [word] := by
  cases ws with
  | nil => rfl
  | cons word rest => exact groupFrom_alwaysSingle word rest

/-- Parts of one word each have no keys, and their values are the words. -/
theorem values_singles (ws : List String) (index : Nat → Nat) :
    (((ws.map fun word => [word]).mapIdx fun i part => (⟨index i, part⟩ : Command.Part)).filter
      fun p => p.key?.isNone).map Part.value = ws := by
  induction ws generalizing index with
  | nil => rfl
  | cons word ws ih =>
    rw [List.map_cons, List.mapIdx_cons, List.filter_cons_of_pos rfl, List.map_cons,
      ih fun i => index (i + 1)]
    rfl

/-- The arguments without a value of a line whose words take none are its words after the
command. -/
theorem positionals_parse {policies : PolicyTable} {text : String}
    (hpolicy : policies (Line.parse policies text).keyword = ⟨.alwaysSingle, 0⟩) :
    (Line.parse policies text).positionals = (wordsOf (Line.parse policies text).raw).tail := by
  rw [Line.keyword, Line.parse] at hpolicy
  rw [Line.positionals, Line.arguments, Line.parse]
  dsimp only at hpolicy ⊢
  -- the policy is that of the first word, which the groups leave in its place
  generalize wordsOf (trimmed text) = ws at hpolicy ⊢
  rcases ws with _ | ⟨name, args⟩
  · rfl
  · have hname : policies (Keyword.ofWord name) = ⟨.alwaysSingle, 0⟩ := by
      simpa only [groupLine, List.cons_append, List.mapIdx_cons, Part.value] using hpolicy
    simp only [groupLine, hname, List.cons_append, List.mapIdx_cons, List.drop_one, List.tail_cons,
      List.take_zero, List.drop_zero, List.map_nil, List.nil_append, groupWords_alwaysSingle]
    exact values_singles args (· + 1)

/-! ## The list of a file run -/

/-- Register a key, unless it is. -/
def register (keys : List String) (key : String) : List String :=
  if key ∈ keys then keys else keys ++ [key]

/-- What a line makes of the keys that are required. -/
def registeredBy (keys : List String) (line : Line) : List String :=
  match line.keyword with
  | .require => (keysOf line).foldl register keys
  | .unrequire => keys.filter (· ∉ keysOf line)
  | _ => keys

/-- The keys that lines require, in order of registration. -/
def registered (history : List Line) : List String := history.foldl registeredBy []

/-- Whether a key is still required after lines: a line that requires variables has named it, and
no line that drops them has since. -/
def StillRequired (history : List Line) (key : String) : Prop :=
  Since (fun line => line.keyword = .require ∧ key ∈ keysOf line)
    (fun line => line.keyword = .unrequire → key ∉ keysOf line) history

section Registered

variable {keys : List String} {history : List Line} {line : Line} {key : String}

/-- What is registered after a key is. -/
theorem mem_register {other : String} : other ∈ register keys key ↔ other ∈ keys ∨ other = key := by
  rw [register]
  split_ifs with hkey
  · constructor
    · exact .inl
    · rintro (hother | rfl)
      · exact hother
      · exact hkey
  · rw [List.mem_append, List.mem_singleton]

/-- What is registered after keys are. -/
theorem mem_foldl_register {new : List String} {other : String} :
    other ∈ new.foldl register keys ↔ other ∈ keys ∨ other ∈ new := by
  induction new generalizing keys with
  | nil => simp
  | cons key new ih => rw [List.foldl_cons, ih, mem_register, List.mem_cons, or_assoc]

/-- A key is registered once. -/
theorem nodup_register (h : keys.Nodup) : (register keys key).Nodup := by
  rw [register]
  split_ifs with hkey
  · exact h
  · exact List.nodup_append.mpr ⟨h, List.nodup_singleton key, by
      intro other hother found hfound
      rw [List.mem_singleton.mp hfound]
      exact ne_of_mem_of_not_mem hother hkey⟩

/-- No line registers a key twice. -/
theorem nodup_registeredBy (h : keys.Nodup) : (registeredBy keys line).Nodup := by
  rw [registeredBy]
  split
  · generalize keysOf line = new
    induction new generalizing keys with
    | nil => exact h
    | cons key new ih => exact ih (nodup_register h)
  · exact h.filter _
  · exact h

/-- What is registered after one more line. -/
theorem registered_concat : registered (history ++ [line]) = registeredBy (registered history) line := by
  rw [registered, List.foldl_append]
  rfl

/-- No key is registered twice. -/
theorem nodup_registered (history : List Line) : (registered history).Nodup := by
  induction history using List.reverseRecOn with
  | nil => exact List.nodup_nil
  | append_singleton history line ih =>
    rw [registered_concat]
    exact nodup_registeredBy ih

/-- **The keys on the list are those that are still required.** -/
theorem mem_registered_iff : key ∈ registered history ↔ StillRequired history key := by
  induction history using List.reverseRecOn with
  | nil => simp [registered, StillRequired, not_since_nil]
  | append_singleton history line ih =>
    rw [registered_concat, StillRequired, since_concat, ← StillRequired, ← ih, registeredBy]
    split
    · next hrequires =>
      rw [mem_foldl_register, or_comm]
      simp [hrequires]
    · next hdrops =>
      rw [List.mem_filter]
      simp [hdrops]
    · next hrequires hdrops =>
      have hneither : line.keyword ≠ .require ∧ line.keyword ≠ .unrequire := ⟨hrequires, hdrops⟩
      simp [hneither]

end Registered

section Files

variable {r : Runner σ} {runFile : FileRunner σ} {line : Line} {file : FileRun} {s t : Session σ}
  {outcome : Outcome} {after : Option FileRun}

/-- What registering keys makes of a file run. -/
theorem file_requireAll (keys : List String) (file : FileRun) (s : Session σ) :
    (requireAll keys file s).1 = { file with required := keys.foldl register file.required } := by
  induction keys generalizing file s with
  | nil => rfl
  | cons key keys ih =>
    rw [requireAll, FileRun.require, List.foldl_cons, register]
    by_cases hkey : key ∈ file.required
    · rw [if_pos hkey, if_pos (List.elem_iff.mpr hkey)]
      exact ih file _
    · rw [if_neg hkey, if_neg (by simpa using hkey)]
      exact ih { file with required := file.required ++ [key] } _

/-- What dropping keys makes of a file run. -/
theorem file_unrequireAll (keys : List String) (file : FileRun) (s : Session σ) :
    (unrequireAll keys file s).1 =
      { file with required := file.required.filter (· ∉ keys) } := by
  induction keys generalizing file s with
  | nil => simp [unrequireAll]
  | cons key keys ih =>
    have hdropped : (file.required.filter (· != key)).filter (· ∉ keys) =
        file.required.filter (· ∉ key :: keys) := by
      rw [List.filter_filter]
      refine List.filter_congr fun other _ => ?_
      by_cases hother : other = key <;> simp [hother]
    rw [unrequireAll, FileRun.unrequire]
    cases file.required.elem key
    all_goals
      dsimp only
      rw [ih, hdropped]

/-- **What a line makes of the file run that dispatches it.** -/
theorem perform_file (hkeys : line.keyword = .require ∨ line.keyword = .unrequire →
      line.positionals.map marked = keysOf line)
    (h : perform r runFile line (some file) s = some (outcome, after, t)) :
    after = some { file with required := registeredBy file.required line } := by
  rw [perform] at h
  rw [registeredBy]
  cases hkeyword : line.keyword <;> rw [hkeyword] at h
  case require =>
    rw [requireVariables, hkeys (.inl hkeyword)] at h
    cases h
    exact congrArg some (file_requireAll (keysOf line) file s)
  case unrequire =>
    rw [unrequireVariables, hkeys (.inr hkeyword)] at h
    dsimp only at h
    split_ifs at h with hnone
    · cases h
      rw [List.isEmpty_iff.mp hnone]
      simp
    · cases h
      exact congrArg some (file_unrequireAll (keysOf line) file s)
  -- all other lines keep the file run
  case passthrough =>
    obtain ⟨done, -, hkept⟩ := Option.map_eq_some_iff.mp h
    cases hkept
    rfl
  case run =>
    obtain ⟨done, -, hkept⟩ := Option.map_eq_some_iff.mp h
    cases hkept
    rfl
  all_goals
    cases h
    rfl

end Files

/-! ## The lines of a file run -/

/-- Whether a file run comes from a place to another one of its own, and dispatches lines by itself
on the way. -/
inductive Through (r : Runner σ) (p : Place σ) : List Line → Place σ → Prop
  | start : Through r p [] p
  | next {history : List Line} {q z : Place σ} :
      Through r p history q → q.next? r = some z →
      Through r p (history ++ (q.line? r).toList) z

/-- Whether a variable is declared at a place, in the session or by the line that runs the file. -/
def Place.declares (p : Place σ) (key : String) : Bool :=
  p.session.store.contains key || p.file.store.contains key

section Gate

variable {r : Runner σ} {p q : Place σ} {line : Line} {history : List Line} {text key : String}
  {rest : List String}

/-- A line that is dispatched has been read under the policies of the runner. -/
theorem Place.line_parse (h : p.line? r = some line) : ∃ text, line = .parse r.policies text := by
  rw [Place.line?] at h
  split at h
  · cases h
  · exact isRead_of_lineAt h

/-- Under the builtin policies a line that requires variables, or drops them, names its words. -/
theorem Place.positionals_line (hr : r.policies = .builtin) (h : p.line? r = some line)
    (hkeyword : line.keyword = .require ∨ line.keyword = .unrequire) :
    line.positionals.map marked = keysOf line := by
  obtain ⟨text, rfl⟩ := Place.line_parse h
  rw [keysOf, positionals_parse]
  rw [hr] at hkeyword ⊢
  obtain hkeyword | hkeyword := hkeyword
  · rw [hkeyword]
    rfl
  · rw [hkeyword]
    rfl

/-- A line that is not dispatched changes nothing of the file run. -/
theorem Place.file_of_not_line {suppress : Bool} {file : FileRun} {t : Session σ}
    (hline : p.line? r = none) (hturn : p.turn r = some (.on suppress file t)) :
    file = p.file := by
  rw [Place.turn] at hturn
  split at hturn
  · cases hturn
  · next text lines hlines =>
    have hnone : lineAt? r p.suppress p.file text p.session = none := by
      rwa [Place.line?, hlines] at hline
    obtain ⟨later, u, hpassed, -⟩ | ⟨key, -, -, hstops⟩ :=
      turn_of_not_lineAt hnone
    · rw [hpassed] at hturn
      cases hturn
      rfl
    · rw [hstops] at hturn
      cases hturn

/-- What a line that is passed over, or dispatched, makes of the file run. -/
theorem Place.file_of_next (hr : r.policies = .builtin) (h : p.next? r = some q) :
    q.file = { p.file with
      required := (p.line? r).toList.foldl registeredBy p.file.required } := by
  rw [Place.next?] at h
  split at h
  · next suppress file t hturn =>
    cases h
    cases hline : p.line? r with
    | none => exact Place.file_of_not_line hline hturn
    | some line =>
      rw [Place.turn_of_line hline] at hturn
      obtain ⟨⟨outcome, after, u⟩, hperform, hx⟩ := Option.map_eq_some_iff.mp hturn
      have hafter := perform_file (Place.positionals_line hr hline) hperform
      rw [Turn.ofDispatch, hafter] at hx
      split_ifs at hx
      cases hx
      rfl
  · cases h

/-- **The list of a file run is what its lines have registered.** -/
theorem Through.file_eq (hr : r.policies = .builtin) (h : Through r p history q)
    (hp : p.file.required = []) :
    q.file = { p.file with required := registered history } := by
  induction h with
  | start =>
    rw [registered, List.foldl_nil, ← hp]
  | next _ hnext ih =>
    rw [Place.file_of_next hr hnext, ih, registered, registered, List.foldl_append]

/-- The run of a file goes on from each of its places. -/
theorem Through.run_eq (h : Through r p history q) : p.run r = q.run r := by
  induction h with
  | start => rfl
  | next _ hnext ih => exact ih.trans (Place.run_of_next hnext)

/-- The first required key that is missing at a place is the first that is not declared. -/
theorem Place.missing_eq (p : Place σ) :
    p.file.missing? (layersOf p.file p.session) = p.file.required.find? fun key => !p.declares key := by
  rw [FileRun.missing?]
  congr 1
  funext key
  rw [layersOf, lookup, Place.declares, Store.contains, Store.contains]
  cases hfound : p.session.store.get? key with
  | some value => simp [hfound]
  | none => simp [hfound]

/-- Where a line is dispatched, no required variable is missing. -/
theorem Place.missing_of_line (h : p.line? r = some line) :
    p.file.missing? (layersOf p.file p.session) = none := by
  rw [Place.line?] at h
  split at h
  · cases h
  · exact missing_of_lineAt h

/-- A file that a line runs begins with nothing required. -/
theorem required_of_opens {line : Line} {s : Session σ} {depth : Nat} {name : String}
    (h : Opens r line s depth name p) : p.file.required = [] := by
  cases h
  rfl

end Gate

/-! ## The main statement -/

/-- **Required variables guard the lines of a file run.**  Under the builtin policies, at every place
that a file run comes to: the list of required keys is what the lines dispatched before by this file
run have registered, none twice and as long as no later line has dropped it.  A line is dispatched
only if all of them are declared, and at a line that is not blank the file halts otherwise, whatever
the line is, having said which one that was registered first is missing.  A file that is run inside
begins with nothing required, and a line that runs files neither changes the list nor depends on
it. -/
theorem required_variables_guard (r : Runner σ) (hr : r.policies = .builtin) (depth : Nat)
    (name text : String) (store : Store) (s : Session σ) (history : List Line) (q : Place σ)
    (h : Through r (.start depth name store text s) history q) :
    q.file = { name, store, required := registered history } ∧
    (registered history).Nodup ∧
    (∀ key, key ∈ registered history ↔ StillRequired history key) ∧
    (∀ line, q.line? r = some line → ∀ key, StillRequired history key → q.declares key) ∧
    (∀ next rest, q.lines = next :: rest → isBlankText next = false →
      (∃ key, StillRequired history key ∧ q.declares key = false) →
      ∃ key, ((registered history).find? fun key => !q.declares key) = some key ∧
        Halts r q .halt (q.session.say (Failure.variableMissing key).message) ∧
        (Place.start depth name store text s).run r =
          some (.halt, q.session.say (Failure.variableMissing key).message)) ∧
    (∀ line u depth name p, Opens r line u depth name p → p.file.required = []) ∧
    (∀ line z, q.line? r = some line → line.keyword = .run → q.next? r = some z →
      z.file = q.file) ∧
    ∀ line runFile file u, line.keyword = .run →
      perform r runFile line (some file) u =
        (importFiles runFile line u).map fun (outcome, t) => (outcome, some file, t) := by
  have hfile : q.file = { name, store, required := registered history } := h.file_eq hr rfl
  have hrequired : q.file.required = registered history := congrArg FileRun.required hfile
  refine ⟨hfile, nodup_registered history, fun key => mem_registered_iff, ?_, ?_,
    fun line u depth name p hopens => required_of_opens hopens, ?_,
    fun line runFile file u hrun => perform_run hrun⟩
  · -- where a line is dispatched nothing on the list is missing
    intro line hline key hkey
    have hmissing := q.missing_eq.symm.trans (Place.missing_of_line hline)
    rw [hrequired, List.find?_eq_none] at hmissing
    simpa using hmissing key (mem_registered_iff.mpr hkey)
  · -- one key is absent, and the first that is absent stops the file
    rintro next rest hlines hblank ⟨absent, hrequires, habsent⟩
    have hsome : ((registered history).find? fun key => !q.declares key).isSome := by
      rw [List.find?_isSome]
      exact ⟨absent, mem_registered_iff.mpr hrequires, by simp [habsent]⟩
    obtain ⟨key, hkey⟩ := Option.isSome_iff_exists.mp hsome
    have hmissing : q.file.missing? (layersOf q.file q.session) = some key := by
      rw [q.missing_eq, hrequired, hkey]
    have hhalts : Halts r q .halt (q.session.say (Failure.variableMissing key).message) :=
      .missing hlines hblank hmissing
    exact ⟨key, hkey, hhalts, h.run_eq.trans hhalts.run⟩
  · intro line z hline hrun hnext
    have hsame := Place.file_of_next hr hnext
    rw [hline] at hsame
    simpa [registeredBy, hrun] using hsame

/-! ## Two scripts -/

/-- The beginning of a script that is run with variables from a new session. -/
def scriptStart (r : Runner Unit) (store : Store) (text : String) : Place Unit :=
  .start maxDepth "gate.txt" store text { r.newSession () with mode := .fileRun }

/-- A script that is run with one of the two variables that it requires halts at a comment, for the
other one. -/
theorem required_variables_guard_comment :
    let r := tableRunner silentHost []
    let p := scriptStart r ⟨[("-@user", "ops")]⟩ "required user host\n-- deploy\nls\n"
    ∃ history q, r.policies = .builtin ∧ Through r p history q ∧
      q.lines = ["-- deploy", "ls"] ∧ registered history = ["-@user", "-@host"] ∧
      StillRequired history "-@host" ∧ q.declares "-@user" ∧ q.declares "-@host" = false ∧
      p.run r = some (.halt, q.session.say (Failure.variableMissing "-@host").message) := by
  intro r p
  let q : Place Unit := (p.next? r).get (by decide +kernel)
  let history := [] ++ (p.line? r).toList
  have hq : Through r p history q := .next .start (Option.some_get _).symm
  have hlines : q.lines = ["-- deploy", "ls"] := by decide +kernel
  have hpresent : q.declares "-@user" = true := by decide +kernel
  have habsent : q.declares "-@host" = false := by decide +kernel
  have hregistered : registered history = ["-@user", "-@host"] := by decide +kernel
  obtain ⟨-, -, hmem, -, hguard, -⟩ :=
    required_variables_guard r rfl maxDepth "gate.txt" _ _ _ history q hq
  have hrequired : StillRequired history "-@host" := (hmem _).mp (by simp [hregistered])
  obtain ⟨key, hfirst, -, hrun⟩ := hguard _ _ hlines (by decide) ⟨"-@host", hrequired, habsent⟩
  have hhost : ["-@user", "-@host"].find? (fun key => !q.declares key) = some "-@host" := by
    simp [hpresent, habsent]
  rw [hregistered, hhost] at hfirst
  obtain rfl := Option.some.inj hfirst
  exact ⟨history, q, rfl, hq, hlines, hregistered, hrequired, hpresent, habsent, hrun⟩

/-- Blank lines are not guarded: in print mode one is shown although a required variable is
missing. -/
theorem blank_line_shown_unguarded :
    let r := tableRunner silentHost []
    ¬∀ history q, Through r (scriptStart r {} "print\nrequired host\n\nls\n") history q →
      ∀ shown, q.turn r = some (.on q.suppress q.file (q.session.say shown)) →
        ∀ key, StillRequired history key → q.declares key := by
  intro r hguarded
  let p := scriptStart r {} "print\nrequired host\n\nls\n"
  let p₁ : Place Unit := (p.next? r).get (by decide +kernel)
  let q : Place Unit := (p₁.next? r).get (by decide +kernel)
  let history := ([] ++ (p.line? r).toList) ++ (p₁.line? r).toList
  have hp₁ : Through r p ([] ++ (p.line? r).toList) p₁ := .next .start (Option.some_get _).symm
  have hq : Through r p history q := .next hp₁ (Option.some_get _).symm
  have hlines : q.lines = ["", "ls"] := by decide +kernel
  have hecho : (q.session.echo && !q.suppress) = true := by decide +kernel
  have hshown : q.turn r = some (.on q.suppress q.file (q.session.say "")) := by
    rw [Place.turn, hlines]
    dsimp only
    rw [Run.turn, if_pos (by decide), if_pos hecho]
  have hrequired : StillRequired history "-@host" := mem_registered_iff.mp (by decide +kernel)
  exact absurd (hguarded history q hq "" hshown "-@host" hrequired) (by decide +kernel)

end ScriptedShell.Run
