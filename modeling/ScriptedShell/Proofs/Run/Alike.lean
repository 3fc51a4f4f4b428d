/-
# Runs that differ in their passwords

Two runs side by side, each with its own password, in surroundings that answer alike: hosts,
copies, local scripts and files are the same for both.  The runs are in the same state but for
their passwords, and every builtin command keeps it so.
-/
import Mathlib
import ScriptedShell.Proofs.Run.Openings
import ScriptedShell.Run.Dispatch

namespace ScriptedShell

open Remote Command Text Variable Files Local Run

namespace Twins

variable {σ τ : Type} (A : Twins σ τ)

/-! ## What is alike -/

/-- Copies that go the same way. -/
structure Copies (c : Copied σ) (c' : Copied τ) : Prop where
  percentages : c.percentages = c'.percentages
  failure : c.failure = c'.failure
  deliveries : c.deliveries = c'.deliveries
  world : A.worlds c.world c'.world

/-- The same fault, or worlds that go together. -/
inductive Removals : Except FileFault σ → Except FileFault τ → Prop
  | fault (fault : FileFault) : Removals (.error fault) (.error fault)
  | world {w : σ} {w' : τ} (h : A.worlds w w') : Removals (.ok w) (.ok w')

/-- Copiers that do the same. -/
structure Copiers (copier : Copier σ) (copier' : Copier τ) : Prop where
  upload : ∀ {w w'}, A.worlds w w' → ∀ endpoint localPath remotePath,
    A.Copies (copier.upload endpoint localPath remotePath w)
      (copier'.upload endpoint localPath remotePath w')
  download : ∀ {w w'}, A.worlds w w' → ∀ endpoint remotePath localPath,
    A.Copies (copier.download endpoint remotePath localPath w)
      (copier'.download endpoint remotePath localPath w')
  isFile : ∀ {w w'}, A.worlds w w' → ∀ path, copier.isFile path w = copier'.isFile path w'
  removeFile : ∀ {w w'}, A.worlds w w' → ∀ path,
    A.Removals (copier.removeFile path w) (copier'.removeFile path w')

/-- Transfers that go the same way. -/
structure Transfers (t : Transferred σ) (t' : Transferred τ) : Prop where
  failure : t.failure = t'.failure
  trace : t.trace = t'.trace
  deliveries : t.deliveries = t'.deliveries
  world : A.worlds t.world t'.world

/-- Scripts that are the same line by line, but for the passwords. -/
def Scripts (text text' : String) : Prop :=
  List.Forall₂ A.Lines (scriptLines text) (scriptLines text')

/-- The same fault, or scripts that are the same but for the passwords. -/
inductive Readings : Except FileFault String → Except FileFault String → Prop
  | fault (fault : FileFault) : Readings (.error fault) (.error fault)
  | script {text text' : String} (h : A.Scripts text text') : Readings (.ok text) (.ok text')

/-- Local scripts that go the same way. -/
structure Invocations (x : Invoked σ) (y : Invoked τ) : Prop where
  events : x.events = y.events
  result : x.result = y.result
  world : A.worlds x.world y.world

/-- Surroundings that answer the two runs alike. -/
structure Surroundings (around : Run.Surroundings σ) (around' : Run.Surroundings τ) : Prop where
  host : A.Hosts around.host around'.host
  copier : A.Copiers around.copier around'.copier
  currentDirectory : ∀ {w w'}, A.worlds w w' →
    around.currentDirectory w = around'.currentDirectory w'
  invoke : ∀ {w w'}, A.worlds w w' → ∀ script,
    A.Invocations (around.invoke script w) (around'.invoke script w')
  readText : ∀ {w w'}, A.worlds w w' → ∀ path,
    A.Readings (around.readText path w) (around'.readText path w')

/-- Runners with the same settings, in surroundings that answer alike. -/
structure Runners (r : Runner σ) (r' : Runner τ) : Prop where
  settings : r.settings = r'.settings
  width : r.width = r'.width
  around : A.Surroundings r.around r'.around

/-- Runs in the same state, but for the passwords. -/
structure Runs (s : Run.Session σ) (s' : Run.Session τ) : Prop where
  remote : A.Sessions s.remote s'.remote
  store : s.store = s'.store
  mode : s.mode = s'.mode
  echo : s.echo = s'.echo
  stream : s.stream = s'.stream
  startPath : s.startPath = s'.startPath
  location : s.location = s'.location

/-- Ways to run files that keep runs alike. -/
def FileRunners (runFile : FileRunner σ) (runFile' : FileRunner τ) : Prop :=
  ∀ name store s s', A.Runs s s' →
    Option.Rel (Both A.Runs) (runFile name store s) (runFile' name store s')

variable {A}

/-- Remote sessions are set up alike. -/
theorem Runners.setup_eq {r : Runner σ} {r' : Runner τ} (hr : A.Runners r r') :
    r.setup = r'.setup := by rw [Runner.setup, Runner.setup, hr.settings, hr.width]

/-- The same policies are in force. -/
theorem Runners.policies_eq {r : Runner σ} {r' : Runner τ} (hr : A.Runners r r') :
    r.policies = r'.policies := by rw [Runner.policies, Runner.policies, hr.settings]

/-! ## Transfers

A line that copies a file carries its own password, which is the same in both runs. -/

section Transfers

variable {copier : Copier σ} {copier' : Copier τ} {w : σ} {w' : τ}

theorem transfers_upload (hc : A.Copiers copier copier') (hw : A.worlds w w')
    (spec : TransferSpec) (path : String) :
    A.Transfers (spec.upload copier path w) (spec.upload copier' path w') := by
  rw [TransferSpec.upload, TransferSpec.upload, hc.isFile hw]
  split_ifs
  · have hcopied := hc.upload hw spec.endpoint path spec.remotePath
    refine ⟨hcopied.failure, ?_, hcopied.deliveries, hcopied.world⟩
    dsimp only
    rw [hcopied.percentages, hcopied.failure]
  · exact ⟨rfl, rfl, rfl, hw⟩

theorem removals_clearTarget (hc : A.Copiers copier copier') (hw : A.worlds w w')
    (path : String) : A.Removals (clearTarget copier path w) (clearTarget copier' path w') := by
  rw [clearTarget, clearTarget, hc.isFile hw]
  split_ifs
  · exact hc.removeFile hw path
  · exact .world hw

theorem transfers_download (hc : A.Copiers copier copier') (hw : A.worlds w w')
    (spec : TransferSpec) (path : String) :
    A.Transfers (spec.download copier path w) (spec.download copier' path w') := by
  have hcleared := removals_clearTarget hc hw path
  rw [TransferSpec.download, TransferSpec.download]
  generalize clearTarget copier path w = x, clearTarget copier' path w' = x' at hcleared ⊢
  cases hcleared with
  | fault fault => exact ⟨rfl, rfl, rfl, hw⟩
  | world hw =>
    have hcopied := hc.download hw spec.endpoint spec.remotePath path
    refine ⟨hcopied.failure, ?_, hcopied.deliveries, hcopied.world⟩
    dsimp only
    rw [hcopied.failure]

theorem transfers_execute (hc : A.Copiers copier copier') (hw : A.worlds w w')
    (spec : TransferSpec) (base : String) :
    A.Transfers (spec.execute copier base w) (spec.execute copier' base w') := by
  rw [TransferSpec.execute, TransferSpec.execute]
  cases spec.direction with
  | upload => exact transfers_upload hc hw spec _
  | download => exact transfers_download hc hw spec _

end Transfers

namespace Runs

variable {s : Run.Session σ} {s' : Run.Session τ} {r : Runner σ} {r' : Runner τ}

/-! ## Changes of a run -/

theorem world (h : A.Runs s s') : A.worlds s.world s'.world := h.remote.world

theorem withRemote (h : A.Runs s s') {x : Remote.Session σ} {x' : Remote.Session τ}
    (hx : A.Sessions x x') : A.Runs { s with remote := x } { s' with remote := x' } :=
  { h with remote := hx }

theorem withStore (h : A.Runs s s') {store store' : Store} (hstore : store = store') :
    A.Runs { s with store := store } { s' with store := store' } := { h with store := hstore }

theorem withMode (h : A.Runs s s') {mode mode' : Run.Mode} (hmode : mode = mode') :
    A.Runs { s with mode := mode } { s' with mode := mode' } := { h with mode := hmode }

theorem note (h : A.Runs s s') {acts acts' : List Activity}
    (ha : List.Forall₂ A.Activities acts acts') : A.Runs (s.note acts) (s'.note acts') :=
  h.withRemote (h.remote.note ha)

theorem noteSame (h : A.Runs s s') (acts : List Activity) : A.Runs (s.note acts) (s'.note acts) :=
  h.note (activities_same acts)

theorem say (h : A.Runs s s') (text : String) : A.Runs (s.say text) (s'.say text) :=
  h.withRemote (h.remote.say text)

theorem sayAll (h : A.Runs s s') (texts : List String) :
    A.Runs (s.sayAll texts) (s'.sayAll texts) := by
  induction texts generalizing s s' with
  | nil => exact h
  | cons text texts ih => exact ih (h.say text)

theorem pause (hr : A.Runners r r') (h : A.Runs s s') (moment : Moment) :
    A.Runs (s.pause r moment) (s'.pause r' moment) := by
  rw [Run.Session.pause, Run.Session.pause, hr.setup_eq]
  exact h.withRemote (h.remote.pause r'.setup hr.around.host moment)

theorem deliverAll (hr : A.Runners r r') (h : A.Runs s s') (ds : List Delivery) :
    A.Runs (s.deliverAll r ds) (s'.deliverAll r' ds) := by
  rw [Run.Session.deliverAll, Run.Session.deliverAll, hr.width]
  exact h.withRemote (h.remote.deliverAll r'.width ds)

theorem takeInAll (hr : A.Runners r r') (h : A.Runs s s') (streamed : Bool)
    (events : List LocalEvent) :
    A.Runs (s.takeInAll r streamed events) (s'.takeInAll r' streamed events) := by
  induction events generalizing s s' with
  | nil => exact h
  | cons event events ih =>
    refine ih ?_
    cases event with
    | line text =>
      dsimp only [Run.Session.takeIn]
      split_ifs
      · exact h.say text
      · exact h
    | delivery d => exact deliverAll hr h [d]

/-! ## Remote sessions

The only lines on which the two runs differ open a session, so that all other commands are about
one line. -/

theorem hangUp (hr : A.Runners r r') (h : A.Runs s s') :
    Both A.Runs (Run.hangUp r s) (Run.hangUp r' s') := by
  rw [Run.hangUp, Run.hangUp, hr.setup_eq]
  exact ⟨rfl, h.withRemote (h.remote.disconnect r'.setup hr.around.host).state⟩

theorem sendLine (hr : A.Runners r r') (line : Line) (h : A.Runs s s') :
    Option.Rel (Both A.Runs) (Run.sendLine r line s) (Run.sendLine r' line s') := by
  obtain ⟨sent, t, t', hx, hx', ht⟩ :=
    (h.remote.send r'.setup hr.around.host line.raw).exists_eq
  rw [Run.sendLine, Run.sendLine, hr.setup_eq, hx, hx']
  have hsent := h.withRemote ht
  cases sent with
  | output lines => exact .some ⟨rfl, hsent⟩
  | unanswered => exact .none
  | failed cause =>
    cases cause with
    -- a failure of the stream has been shown when it came
    | streamClosed reason => exact .some (hangUp hr hsent)
    | _ => exact .some (hangUp hr (hsent.say _))

theorem openSession (hr : A.Runners r r') {line line' : Line} (hl : A.Commands line line')
    (h : A.Runs s s') : Both A.Runs (Run.openSession r line s) (Run.openSession r' line' s') := by
  have hspec := hl.endpoint r'.settings.remote
  rw [Run.openSession, Run.openSession, h.remote.isConnected_eq, hr.settings, hr.setup_eq]
  generalize Endpoint.ofLine r'.settings.remote line = x,
    Endpoint.ofLine r'.settings.remote line' = x' at hspec ⊢
  split_ifs
  -- while a connection is held the line is refused, whatever it says
  · exact hangUp hr (h.say _)
  · cases hspec with
    | fault fault => exact ⟨rfl, h.say _⟩
    | endpoint he =>
      have hsaid := h.say "Create new ssh connection"
      obtain ⟨failure, t, t', hx, hx', ht⟩ :=
        (hsaid.remote.connect r'.setup hr.around.host he).exists_eq
      dsimp only
      rw [hx, hx']
      exact ⟨rfl, hsaid.withRemote ht⟩

theorem closeSession (hr : A.Runners r r') (h : A.Runs s s') :
    Both A.Runs (Run.closeSession r s) (Run.closeSession r' s') := by
  obtain ⟨closed, t, t', hx, hx', ht⟩ :=
    (h.remote.disconnect r'.setup hr.around.host).exists_eq
  rw [Run.closeSession, Run.closeSession, hr.setup_eq, hx, hx']
  cases closed with
  | true => exact ⟨rfl, h.withRemote ht⟩
  | false => exact ⟨rfl, (h.withRemote ht).say _⟩

theorem transferFile (hr : A.Runners r r') (line : Line) (h : A.Runs s s') :
    Both A.Runs (Run.transferFile r line s) (Run.transferFile r' line s') := by
  rw [Run.transferFile, Run.transferFile, hr.settings]
  cases TransferSpec.ofLine r'.settings.remote line with
  | error fault => exact ⟨rfl, h.say _⟩
  | ok spec =>
    have hdone := transfers_execute hr.around.copier h.world spec
      (r'.around.currentDirectory s'.world)
    dsimp only
    rw [hr.around.currentDirectory h.world, hdone.failure, hdone.trace]
    have hdone' := (h.withRemote (h.remote.withWorld hdone.world)).noteSame
    rw [hdone.deliveries]
    exact ⟨rfl, (deliverAll hr (hdone' _) _).sayAll _⟩

theorem beginFixedRows (hr : A.Runners r r') (line : Line) (h : A.Runs s s') :
    Both A.Runs (Run.beginFixedRows r line s) (Run.beginFixedRows r' line s') := by
  have henter := fun row => (h.remote.enterRedraw r'.setup hr.around.host row).exists_eq
  rw [Run.beginFixedRows, Run.beginFixedRows, hr.setup_eq]
  cases line.positionals with
  | nil =>
    obtain ⟨failure, t, t', hx, hx', ht⟩ := henter none
    dsimp only
    rw [hx, hx']
    cases failure with
    | none => exact ⟨rfl, h.withRemote ht⟩
    | some cause => exact ⟨rfl, (h.withRemote ht).say _⟩
  | cons text rest =>
    dsimp only
    cases boundedNumber maxRow text.toList with
    | some row =>
      obtain ⟨failure, t, t', hx, hx', ht⟩ := henter (some row)
      dsimp only
      rw [hx, hx']
      cases failure with
      | none => exact ⟨rfl, h.withRemote ht⟩
      | some cause => exact ⟨rfl, (h.withRemote ht).say _⟩
    | none => exact ⟨rfl, h.say _⟩

/-! ## The local shell -/

theorem invokeScript (hr : A.Runners r r') (script : String) (streamed : Bool)
    (h : A.Runs s s') :
    Both A.Runs (Run.invokeScript r script streamed s)
      (Run.invokeScript r' script streamed s') := by
  have hdone := hr.around.invoke h.world script
  have hinvoked := (h.withRemote (h.remote.withWorld hdone.world)).noteSame [.invoked script]
  rw [Run.invokeScript, Run.invokeScript]
  dsimp only
  rw [hdone.events, hdone.result]
  exact ⟨rfl, (takeInAll hr hinvoked streamed _).sayAll _⟩

theorem passOn (hr : A.Runners r r') (line : Line) (h : A.Runs s s') :
    Option.Rel (Both A.Runs) (Run.passOn r line s) (Run.passOn r' line s') := by
  rw [Run.passOn, Run.passOn, h.remote.isConnected_eq, h.stream]
  split_ifs
  · exact sendLine hr line h
  · exact .some (invokeScript hr line.raw s'.stream h)

theorem openPath (hr : A.Runners r r') (line : Line) (h : A.Runs s s') :
    Both A.Runs (Run.openPath r line s) (Run.openPath r' line s') := by
  rw [Run.openPath, Run.openPath, hr.settings]
  exact invokeScript hr _ false h

theorem goBack (hr : A.Runners r r') (h : A.Runs s s') :
    Both A.Runs (Run.goBack r s) (Run.goBack r' s') := by
  rw [Run.goBack, Run.goBack, h.startPath]
  exact invokeScript hr _ false h

/-! ## Variables -/

theorem declareAll (pairs : List (String × String)) (h : A.Runs s s') :
    A.Runs (Run.declareAll pairs s) (Run.declareAll pairs s') := by
  induction pairs generalizing s s' with
  | nil => exact h
  | cons pair pairs ih =>
    have hstore : s.store.declare (marked pair.1) pair.2 =
        s'.store.declare (marked pair.1) pair.2 := by rw [h.store]
    exact ih ((h.withStore hstore).say _)

theorem declareVariables (line : Line) (file : Option FileRun) (h : A.Runs s s') :
    Both A.Runs (Run.declareVariables line file s) (Run.declareVariables line file s') := by
  rw [Run.declareVariables, Run.declareVariables, h.store]
  split_ifs
  · exact ⟨rfl, h.say _⟩
  · exact ⟨rfl, h.sayAll _⟩
  · exact ⟨rfl, h.declareAll line.pairs⟩

theorem removeAll (keys : List String) (h : A.Runs s s') :
    A.Runs (Run.removeAll keys s) (Run.removeAll keys s') := by
  induction keys generalizing s s' with
  | nil => exact h
  | cons key keys ih =>
    rw [Run.removeAll, Run.removeAll, h.store]
    rcases s'.store.remove key with ⟨_ | value, store⟩
    · exact ih ((h.withStore rfl).say _)
    · exact ih ((h.withStore rfl).say _)

theorem removeVariables (line : Line) (h : A.Runs s s') :
    Both A.Runs (Run.removeVariables line s) (Run.removeVariables line s') := by
  rw [Run.removeVariables, Run.removeVariables]
  split_ifs
  · exact ⟨rfl, h.say _⟩
  · exact ⟨rfl, h.removeAll line.positionals⟩

theorem requireAll (keys : List String) (file : FileRun) (h : A.Runs s s') :
    Both A.Runs (Run.requireAll keys file s) (Run.requireAll keys file s') := by
  induction keys generalizing s s' file with
  | nil => exact ⟨rfl, h⟩
  | cons key keys ih =>
    rw [Run.requireAll, Run.requireAll]
    rcases file.require key with ⟨_ | _, file⟩
    · exact ih file (h.say _)
    · exact ih file (h.say _)

theorem unrequireAll (keys : List String) (file : FileRun) (h : A.Runs s s') :
    Both A.Runs (Run.unrequireAll keys file s) (Run.unrequireAll keys file s') := by
  induction keys generalizing s s' file with
  | nil => exact ⟨rfl, h⟩
  | cons key keys ih =>
    rw [Run.unrequireAll, Run.unrequireAll]
    rcases file.unrequire key with ⟨_ | _, file⟩
    · exact ih file h
    · exact ih file (h.say _)

theorem requireVariables (line : Line) (file : Option FileRun) (h : A.Runs s s') :
    Both A.Runs (Run.requireVariables line file s) (Run.requireVariables line file s') := by
  cases file with
  | none => exact ⟨rfl, h.say _⟩
  | some file =>
    have hall := h.requireAll (line.positionals.map marked) file
    exact ⟨congrArg some hall.value, hall.state⟩

theorem unrequireVariables (line : Line) (file : Option FileRun) (h : A.Runs s s') :
    Both A.Runs (Run.unrequireVariables line file s) (Run.unrequireVariables line file s') := by
  cases file with
  | none => exact ⟨rfl, h.say _⟩
  | some file =>
    have hall := h.unrequireAll (line.positionals.map marked) file
    rw [Run.unrequireVariables, Run.unrequireVariables]
    dsimp only
    split_ifs
    · exact ⟨rfl, h.say _⟩
    · exact ⟨congrArg some hall.value, hall.state⟩

/-! ## Conditions and modes -/

theorem askFiles (hr : A.Runners r r') (line : Line) (h : A.Runs s s') :
    Both A.Runs (Run.askFiles r line s) (Run.askFiles r' line s') := by
  have hfound : ∀ path, r.around.copier.isFile path s.world =
      r'.around.copier.isFile path s'.world := hr.around.copier.isFile h.world
  have hbase : r.around.currentDirectory s.world = r'.around.currentDirectory s'.world :=
    hr.around.currentDirectory h.world
  rw [Run.askFiles, Run.askFiles, h.mode, hbase]
  simp only [hfound]
  exact ⟨rfl, h.sayAll _⟩

theorem togglePrint (h : A.Runs s s') : A.Runs (Run.togglePrint s) (Run.togglePrint s') := by
  rw [Run.togglePrint, Run.togglePrint, h.echo]
  have htoggled : A.Runs { s with echo := !s'.echo } { s' with echo := !s'.echo } :=
    { h with echo := rfl }
  exact htoggled.say _

theorem setStream (on : Bool) (h : A.Runs s s') :
    A.Runs (Run.setStream on s) (Run.setStream on s') := by
  have hset : A.Runs { s with stream := on } { s' with stream := on } := { h with stream := rfl }
  exact hset.say _

end Runs

end Twins

end ScriptedShell
