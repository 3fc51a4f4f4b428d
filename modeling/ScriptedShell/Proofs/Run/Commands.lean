/-
# What a command leaves

Carrying out one line that runs no file dispatches no other line, and the directory in which the
session started stays noted.  If the run goes on after it, a connection that is held stays held
unless the line closes the session, and a line that opens a session has left one that holds a
connection.  `carriedOut_perform` says so of every command, from what each of them leaves
(`Leaves`).
-/
import Mathlib
import ScriptedShell.Proofs.Remote.Holding
import ScriptedShell.Run.Dispatch

namespace ScriptedShell.Run

open Command Variable Text Remote.Session

variable {σ : Type}

/-- Whether an activity is no dispatch of a line. -/
def Undispatched : Activity → Prop
  | .dispatched _ => False
  | _ => True

/-- What remote sessions note is no dispatch of a line. -/
theorem undispatched_of_isRemote (a : Activity) (h : Remote.IsRemote a) : Undispatched a := by
  cases a with
  | dispatched line => exact h
  | _ => exact trivial

/-- Whether a run has come from one session to another without dispatching lines, still holding
its connection if it held one, and with the same start. -/
@[mk_iff leaves_iff]
structure Leaves (s t : Session σ) : Prop where
  grows : Grows Undispatched s.remote.trace t.remote.trace
  held : Held s.remote → Held t.remote
  start : t.startPath = s.startPath

namespace Leaves

variable {s t u : Session σ}

/-- Nothing has happened to the remote session. -/
theorem of_remote_eq (h : t.remote = s.remote) (hstart : t.startPath = s.startPath) :
    Leaves s t := by
  rw [leaves_iff, h]
  exact ⟨.refl _, id, hstart⟩

/-- A line has been written to the console, and otherwise nothing has happened to the remote
session. -/
theorem of_say {text : String} (h : t.remote = s.remote.say text)
    (hstart : t.startPath = s.startPath) : Leaves s t := by
  rw [leaves_iff, h]
  exact ⟨.single _ trivial, id, hstart⟩

/-- One thing after the other. -/
theorem trans (h : Leaves s t) (h' : Leaves t u) : Leaves s u :=
  ⟨h.grows.trans h'.grows, h'.held ∘ h.held, h'.start.trans h.start⟩

/-- Writing a line to the console. -/
theorem say (s : Session σ) (text : String) : Leaves s (s.say text) := .of_say rfl rfl

/-- Writing lines to the console. -/
theorem sayAll (s : Session σ) (texts : List String) : Leaves s (s.sayAll texts) := by
  induction texts generalizing s with
  | nil => exact .of_remote_eq rfl rfl
  | cons text texts ih => exact (say s text).trans (ih (s.say text))

/-- The host has delivered. -/
theorem of_delivers {width : Nat} {acts : List Activity}
    (h : Remote.Session.Delivers width s.remote acts t.remote) (hstart : t.startPath = s.startPath) :
    Leaves s t := by
  refine ⟨h.grows.mono undispatched_of_isRemote, fun hheld => ?_, hstart⟩
  rwa [Held, h.channel_eq, h.endpoint_eq]

/-- What the host delivers at a moment. -/
theorem pause (r : Runner σ) (s : Session σ) (m : Remote.Moment) : Leaves s (s.pause r m) := by
  obtain ⟨acts, h⟩ := Remote.Session.delivers_pause r.around.host r.setup s.remote m
  exact .of_delivers h rfl

/-- What the host delivers. -/
theorem deliverAll (r : Runner σ) (s : Session σ) (ds : List Remote.Delivery) :
    Leaves s (s.deliverAll r ds) := by
  obtain ⟨acts, h⟩ := Remote.Session.delivers_deliverAll r.width s.remote ds
  exact .of_delivers h rfl

/-- What happens while a script runs. -/
theorem takeInAll (r : Runner σ) (s : Session σ) (streamed : Bool) (events : List LocalEvent) :
    Leaves s (s.takeInAll r streamed events) := by
  induction events generalizing s with
  | nil => exact .of_remote_eq rfl rfl
  | cons event events ih =>
    refine Leaves.trans ?_ (ih (s.takeIn r streamed event))
    cases event with
    | line text =>
      rw [Session.takeIn]
      split_ifs
      · exact .say s text
      · exact .of_remote_eq rfl rfl
    | delivery d => exact .deliverAll r s [d]

end Leaves

section Commands

variable (r : Runner σ)

/-! ## Remote sessions -/

/-- What hanging up notes is the session's own. -/
theorem grows_hangUp (s : Session σ) :
    Grows Remote.IsRemote s.remote.trace (hangUp r s).2.remote.trace :=
  grows_disconnect r.around.host r.setup s.remote

/-- **What sending a line does to a run.**  The remote session sends it.  If it is answered the run
goes on; if it fails the run hangs up, after the failure has been shown unless it was already; and
if it is never answered there is no result. -/
theorem sendLine_eq (line : Line) (s : Session σ) :
    sendLine r line s =
      let sent := s.remote.send r.around.host r.setup line.raw
      match sent.1 with
      | .output _ => some (.next, { s with remote := sent.2 })
      | .failed (.streamClosed _) => some (hangUp r { s with remote := sent.2 })
      | .failed cause => some (hangUp r ({ s with remote := sent.2 }.say cause.message))
      | .unanswered => none := by
  rw [sendLine]
  rcases s.remote.send r.around.host r.setup line.raw with ⟨_ | ⟨⟨_⟩⟩ | _, t⟩ <;> rfl

/-- What a line that is sent notes is the session's own. -/
theorem grows_sendLine {line : Line} {s t : Session σ} {outcome : Outcome}
    (h : sendLine r line s = some (outcome, t)) :
    Grows Remote.IsRemote s.remote.trace t.remote.trace := by
  obtain ⟨acts, htrace, hacts, -⟩ := send_spec r.around.host r.setup s.remote line.raw
  have hsent : Grows Remote.IsRemote s.remote.trace
      (s.remote.send r.around.host r.setup line.raw).2.trace := ⟨acts, htrace, hacts⟩
  rw [sendLine_eq] at h
  dsimp only at h
  split at h
  · cases h
    exact hsent
  · cases h
    exact hsent.trans (grows_hangUp r _)
  · next cause _ _ =>
    cases h
    have hsaid := hsent.trans (.single _ (a := .shown (.line cause.message)) trivial)
    exact hsaid.trans (grows_hangUp r _)
  · cases h

/-- A line that is sent leaves the connection alone if the run goes on. -/
theorem held_sendLine {line : Line} {s t : Session σ} {outcome : Outcome}
    (h : sendLine r line s = some (outcome, t)) (hgoes : outcome.canContinue = true)
    (hheld : Held s.remote) : Held t.remote := by
  obtain ⟨-, -, -, hchannel, hendpoint, -⟩ := send_spec r.around.host r.setup s.remote line.raw
  rw [sendLine_eq] at h
  dsimp only at h
  split at h
  · cases h
    exact ⟨hchannel ▸ hheld.1, hendpoint ▸ hheld.2⟩
  · cases h
    exact absurd hgoes (by decide)
  · cases h
    exact absurd hgoes (by decide)
  · cases h

/-- A line that is sent leaves the start as it is. -/
theorem startPath_sendLine {line : Line} {s t : Session σ} {outcome : Outcome}
    (h : sendLine r line s = some (outcome, t)) : t.startPath = s.startPath := by
  rw [sendLine_eq] at h
  dsimp only at h
  split at h <;> cases h <;> rfl

/-- A line that opens a session leaves the start as it is. -/
theorem startPath_openSession (line : Line) (s : Session σ) :
    (openSession r line s).2.startPath = s.startPath := by
  rw [openSession]
  split_ifs
  · rfl
  · split <;> rfl

/-- A line that closes the session leaves the start as it is. -/
theorem startPath_closeSession (s : Session σ) :
    (closeSession r s).2.startPath = s.startPath := by
  rw [closeSession]
  split <;> rfl

/-- A line that opens a session dispatches no other. -/
theorem grows_openSession (line : Line) (s : Session σ) :
    Grows Undispatched s.remote.trace (openSession r line s).2.remote.trace := by
  rw [openSession]
  split_ifs
  · exact (Leaves.say s _).grows.trans ((grows_hangUp r _).mono undispatched_of_isRemote)
  · split
    · exact (Leaves.say s _).grows
    · next endpoint _ =>
      have hconnect := grows_connect r.around.host r.setup
        (s.say "Create new ssh connection").remote endpoint
      exact (Leaves.say s _).grows.trans (hconnect.mono undispatched_of_isRemote)

/-- A line that opens a session leaves a connection held if the run goes on. -/
theorem held_openSession {line : Line} {s : Session σ}
    (h : (openSession r line s).1.canContinue = true) :
    Held (openSession r line s).2.remote := by
  rw [openSession] at h ⊢
  split_ifs at h ⊢ with hconnected
  · cases h
  · split at h
    · cases h
    · next endpoint heq =>
      dsimp only at h ⊢
      rcases hconnect : (s.say "Create new ssh connection").remote.connect r.around.host r.setup
        endpoint with ⟨_ | cause, remote⟩
      · exact held_connect r.around.host r.setup hconnect
      · rw [hconnect] at h
        cases h

/-- A line that closes the session dispatches no other. -/
theorem grows_closeSession (s : Session σ) :
    Grows Undispatched s.remote.trace (closeSession r s).2.remote.trace := by
  have hgrows := (grows_disconnect r.around.host r.setup s.remote).mono undispatched_of_isRemote
  rw [closeSession]
  rcases hclosed : s.remote.disconnect r.around.host r.setup with ⟨_ | _, remote⟩
  · rw [hclosed] at hgrows
    exact hgrows.trans (.single _ trivial)
  · rwa [hclosed] at hgrows

/-- Beginning fixed-row mode. -/
theorem leaves_beginFixedRows (line : Line) (s : Session σ) :
    Leaves s (beginFixedRows r line s).2 := by
  have henter : ∀ row,
      Leaves s { s with remote := (s.remote.enterRedraw r.around.host r.setup row).2 } := by
    intro row
    exact ⟨(grows_enterRedraw r.around.host r.setup s.remote row).mono undispatched_of_isRemote,
      fun h => held_enterRedraw r.around.host r.setup h row, rfl⟩
  rw [beginFixedRows]
  cases line.positionals with
  | nil =>
    have hrow := henter none
    dsimp only
    rcases hentered : s.remote.enterRedraw r.around.host r.setup none with ⟨_ | _, remote⟩
    · rwa [hentered] at hrow
    · rw [hentered] at hrow
      exact hrow.trans (.say _ _)
  | cons text rest =>
    dsimp only
    cases boundedNumber Remote.maxRow text.toList with
    | some row =>
      have hrow := henter (some row)
      dsimp only
      rcases hentered : s.remote.enterRedraw r.around.host r.setup (some row) with ⟨_ | _, remote⟩
      · rwa [hentered] at hrow
      · rw [hentered] at hrow
        exact hrow.trans (.say _ _)
    | none => exact .say s _

/-! ## Files and the local shell -/

/-- What a transfer notes is no dispatch of a line. -/
theorem undispatched_execute (spec : Remote.TransferSpec) (copier : Remote.Copier σ)
    (base : String) (world : σ) :
    ∀ a ∈ (spec.execute copier base world).trace, Undispatched a := by
  have hprogress : ∀ percentages, ∀ a ∈ Remote.progressLines percentages, Undispatched a := by
    intro percentages a ha
    obtain ⟨step, -, hstep⟩ := List.mem_filterMap.mp ha
    obtain ⟨n, -, rfl⟩ := Option.map_eq_some_iff.mp hstep
    exact trivial
  rw [Remote.TransferSpec.execute]
  cases spec.direction with
  | upload =>
    dsimp only [Remote.TransferSpec.upload]
    split_ifs <;> simp only [List.mem_append, List.mem_cons, List.not_mem_nil, or_false]
    · rintro a (((rfl | rfl) | ha) | rfl)
      · exact trivial
      · exact trivial
      · exact hprogress _ a ha
      · exact trivial
    · rintro a ((rfl | rfl) | ha)
      · exact trivial
      · exact trivial
      · exact hprogress _ a ha
    · exact fun _ ha => ha.elim
  | download =>
    dsimp only [Remote.TransferSpec.download]
    split
    · exact fun _ ha => absurd ha List.not_mem_nil
    · dsimp only
      split_ifs <;> simp [Undispatched, Remote.shownLine]

/-- Copying a file. -/
theorem leaves_transferFile (line : Line) (s : Session σ) :
    Leaves s (transferFile r line s).2 := by
  rw [transferFile]
  split
  · exact .say s _
  · next spec _ =>
    have hnote := undispatched_execute spec r.around.copier (r.around.currentDirectory s.world)
      s.world
    refine Leaves.trans ?_ ((Leaves.deliverAll r _ _).trans (.sayAll _ _))
    exact ⟨⟨_, rfl, hnote⟩, id, rfl⟩

/-- Handing a script to the local shell. -/
theorem leaves_invokeScript (script : String) (streamed : Bool) (s : Session σ) :
    Leaves s (invokeScript r script streamed s).2 := by
  refine Leaves.trans ?_ ((Leaves.takeInAll r _ streamed _).trans (.sayAll _ _))
  exact ⟨⟨[.invoked script], rfl, by simp [Undispatched]⟩, id, rfl⟩

/-- Asking whether files exist. -/
theorem leaves_askFiles (line : Line) (s : Session σ) : Leaves s (askFiles r line s).2 :=
  .sayAll s _

/-! ## Variables -/

/-- Declaring variables. -/
theorem leaves_declareAll (pairs : List (String × String)) (s : Session σ) :
    Leaves s (declareAll pairs s) := by
  induction pairs generalizing s with
  | nil => exact .of_remote_eq rfl rfl
  | cons pair pairs ih =>
    refine Leaves.trans ?_ (ih _)
    exact .of_say rfl rfl

/-- Declaring variables, or looking them up. -/
theorem leaves_declareVariables (line : Line) (file : Option FileRun) (s : Session σ) :
    Leaves s (declareVariables line file s).2 := by
  rw [declareVariables]
  split_ifs
  · exact .say s _
  · exact .sayAll s _
  · exact leaves_declareAll line.pairs s

/-- Removing variables. -/
theorem leaves_removeAll (keys : List String) (s : Session σ) : Leaves s (removeAll keys s) := by
  induction keys generalizing s with
  | nil => exact .of_remote_eq rfl rfl
  | cons key keys ih =>
    rw [removeAll]
    split
    all_goals
      refine Leaves.trans ?_ (ih _)
      exact .of_say rfl rfl

/-- Removing the variables on a line. -/
theorem leaves_removeVariables (line : Line) (s : Session σ) :
    Leaves s (removeVariables line s).2 := by
  rw [removeVariables]
  split_ifs
  · exact .say s _
  · exact leaves_removeAll line.positionals s

/-- Registering keys as required. -/
theorem leaves_requireAll (keys : List String) (file : FileRun) (s : Session σ) :
    Leaves s (requireAll keys file s).2 := by
  induction keys generalizing file s with
  | nil => exact .of_remote_eq rfl rfl
  | cons key keys ih =>
    rw [requireAll]
    split
    all_goals exact (Leaves.say s _).trans (ih _ _)

/-- Dropping keys from the required ones. -/
theorem leaves_unrequireAll (keys : List String) (file : FileRun) (s : Session σ) :
    Leaves s (unrequireAll keys file s).2 := by
  induction keys generalizing file s with
  | nil => exact .of_remote_eq rfl rfl
  | cons key keys ih =>
    rw [unrequireAll]
    split
    · exact (Leaves.say s _).trans (ih _ _)
    · exact ih _ s

/-- Registering the keys on a line. -/
theorem leaves_requireVariables (line : Line) (file : Option FileRun) (s : Session σ) :
    Leaves s (requireVariables line file s).2 := by
  cases file with
  | none => exact .say s _
  | some file => exact leaves_requireAll _ file s

/-- Dropping the keys on a line. -/
theorem leaves_unrequireVariables (line : Line) (file : Option FileRun) (s : Session σ) :
    Leaves s (unrequireVariables line file s).2 := by
  cases file with
  | none => exact .say s _
  | some file =>
    rw [unrequireVariables]
    dsimp only
    split_ifs
    · exact .say s _
    · exact leaves_unrequireAll _ file s

end Commands

/-! ## Carrying out a line -/

/-- What carrying out a line that runs no file comes to.  It dispatches no other line, and leaves
the start as it is.  If the run goes on, a connection is held after a line that opens a session, and
stays held over all others but those that close it. -/
structure CarriedOut (line : Line) (outcome : Outcome) (s t : Session σ) : Prop where
  grows : Grows Undispatched s.remote.trace t.remote.trace
  held : outcome.canContinue = true → line.keyword ≠ .endConnect →
    line.keyword = .connect ∨ Held s.remote → Held t.remote
  start : t.startPath = s.startPath

/-- A line that leaves the connection alone is carried out. -/
theorem Leaves.carriedOut {line : Line} {outcome : Outcome} {s t : Session σ} (h : Leaves s t)
    (hopen : line.keyword ≠ .connect) : CarriedOut line outcome s t :=
  ⟨h.grows, fun _ _ hheld => h.held (hheld.resolve_left hopen), h.start⟩

/-- **What a line does to the trace and to the connection.**  One case for each command; only those
that open and close sessions and those that are passed on do more than to leave the connection
alone. -/
theorem carriedOut_perform {r : Runner σ} {runFile : FileRunner σ} {line : Line}
    {file after : Option FileRun} {s t : Session σ} {outcome : Outcome}
    (hrun : line.keyword ≠ .run)
    (h : perform r runFile line file s = some (outcome, after, t)) :
    CarriedOut line outcome s t := by
  rw [perform] at h
  cases hkeyword : line.keyword <;> rw [hkeyword] at h
  case passthrough =>
    obtain ⟨⟨outcome', u⟩, hpassed, hkept⟩ := Option.map_eq_some_iff.mp h
    cases hkept
    rw [passOn] at hpassed
    split_ifs at hpassed
    · refine ⟨(grows_sendLine r hpassed).mono undispatched_of_isRemote, ?_,
        startPath_sendLine r hpassed⟩
      intro hgoes _ hheld
      exact held_sendLine r hpassed hgoes (hheld.resolve_left (by simp [hkeyword]))
    · cases hpassed
      exact (leaves_invokeScript r line.raw s.stream s).carriedOut (by simp [hkeyword])
  case run => exact absurd hkeyword hrun
  case connect =>
    cases h
    exact ⟨grows_openSession r line s, fun hgoes _ _ => held_openSession r hgoes,
      startPath_openSession r line s⟩
  case endConnect =>
    cases h
    exact ⟨grows_closeSession r s, fun _ hclose _ => absurd hkeyword hclose,
      startPath_closeSession r s⟩
  -- all other commands leave the connection alone
  all_goals refine Leaves.carriedOut ?_ (by simp [hkeyword])
  case transfer => cases h; exact leaves_transferFile r line s
  case openPath => cases h; exact leaves_invokeScript r _ false s
  case back => cases h; exact leaves_invokeScript r _ false s
  case declare => cases h; exact leaves_declareVariables line file s
  case remove => cases h; exact leaves_removeVariables line s
  case require =>
    obtain ⟨-, -, rfl⟩ : outcome = .next ∧ _ := by simpa [Prod.ext_iff, eq_comm] using h
    exact leaves_requireVariables line file s
  case unrequire =>
    obtain ⟨-, -, rfl⟩ : outcome = .next ∧ _ := by simpa [Prod.ext_iff, eq_comm] using h
    exact leaves_unrequireVariables line file s
  case ifExist => cases h; exact leaves_askFiles r line s
  case endIf => cases h; exact .of_remote_eq rfl rfl
  case printMode => cases h; exact .of_say rfl rfl
  case invokeMode => cases h; exact .of_say rfl rfl
  case endInvokeMode => cases h; exact .of_say rfl rfl
  case clear => cases h; exact ⟨.single _ trivial, id, rfl⟩
  case fixRow => cases h; exact leaves_beginFixedRows r line s
  case endFixRow => cases h; exact ⟨.refl _, id, rfl⟩

end ScriptedShell.Run
