/-
# Lines for a remote host

Between a line that opens a session and one that closes it a run is in its remote part: the
connection is held there, since a run goes on after a line only if it still holds it.  Lines that
are passed on in the remote part are sent, and never handed to the local shell; this is read off
the trace from its beginning on (`Standing`), and what single lines add to it carries over to whole
runs.  A line that cannot be sent, or whose answer does not come, stops the call and closes the
connection.
-/
import Mathlib
import ScriptedShell.Proofs.Run.Halting

namespace ScriptedShell.Run

open Command Variable Text Remote.Session

variable {σ : Type}

/-! ## Reading a trace -/

/-- Whether a run that has done this is in its remote part: a line that opens a session has been
dispatched, and none that closes one since. -/
def InRemotePart (acts : List Activity) : Prop :=
  Since (fun a => ∃ line, a = .dispatched line ∧ line.keyword = .connect)
    (fun a => ∀ line, a = .dispatched line → line.keyword ≠ .endConnect) acts

/-- Whether no line that is passed on in the remote part of a run has been handed to the local
shell: when the local shell is used after one, another line has been dispatched in between. -/
def StaysRemote (acts : List Activity) : Prop :=
  ∀ before line between script after,
    acts = before ++ .dispatched line :: (between ++ .invoked script :: after) →
    line.keyword = .passthrough → InRemotePart before → ∃ other, .dispatched other ∈ between

/-- What is known of a run after some of its trace. -/
structure Standing where
  /-- It is in its remote part. -/
  remote : Bool
  /-- Its last line was to be passed on there. -/
  passing : Bool

namespace Standing

/-- The standing at the beginning of a run. -/
def initial : Standing := ⟨false, false⟩

/-- The standing after an activity. -/
def next (st : Standing) : Activity → Standing
  | .dispatched line =>
    { remote := line.keyword = .connect || (st.remote && line.keyword != .endConnect)
      passing := st.remote && line.keyword = .passthrough }
  | _ => st

/-- The standing after activities. -/
def after (st : Standing) (acts : List Activity) : Standing := acts.foldl next st

/-- Whether the local shell is used only where the last line was not to be passed on. -/
def Keeps : Standing → List Activity → Prop
  | _, [] => True
  | st, a :: acts => (∀ script, a = .invoked script → st.passing = false) ∧ Keeps (st.next a) acts

section Lemmas

variable {st : Standing} {x y acts : List Activity}

/-- One part of a trace after the other. -/
theorem after_append : st.after (x ++ y) = (st.after x).after y := List.foldl_append

/-- The local shell is used as it may in a trace when it is in its parts. -/
theorem keeps_append : Keeps st (x ++ y) ↔ Keeps st x ∧ Keeps (st.after x) y := by
  induction x generalizing st with
  | nil => simp [Keeps, after]
  | cons a x ih =>
    rw [List.cons_append, Keeps, Keeps, ih, and_assoc]
    rfl

/-- The standing changes with the dispatch of a line only. -/
theorem next_of_undispatched {a : Activity} (ha : Undispatched a) : st.next a = st := by
  cases a with
  | dispatched line => exact ha.elim
  | _ => rfl

/-- The standing changes with the dispatch of lines only. -/
theorem after_of_undispatched (h : ∀ a ∈ acts, Undispatched a) : st.after acts = st := by
  induction acts with
  | nil => rfl
  | cons a acts ih =>
    rw [after, List.foldl_cons, next_of_undispatched (h a List.mem_cons_self)]
    exact ih fun b hb => h b (List.mem_cons_of_mem a hb)

/-- The local shell may be used after a line that was not to be passed on. -/
theorem keeps_of_not_passing (hst : st.passing = false) (h : ∀ a ∈ acts, Undispatched a) :
    Keeps st acts := by
  induction acts with
  | nil => exact trivial
  | cons a acts ih =>
    refine ⟨fun _ _ => hst, ?_⟩
    rw [next_of_undispatched (h a List.mem_cons_self)]
    exact ih fun b hb => h b (List.mem_cons_of_mem a hb)

/-- What a remote session notes does not use the local shell. -/
theorem keeps_of_isRemote (h : ∀ a ∈ acts, Remote.IsRemote a) : Keeps st acts := by
  induction acts generalizing st with
  | nil => exact trivial
  | cons a acts ih =>
    refine ⟨?_, ih fun b hb => h b (List.mem_cons_of_mem a hb)⟩
    rintro script rfl
    exact (h _ List.mem_cons_self).elim

/-- When the local shell has been used, the last line was not to be passed on. -/
theorem Keeps.passing {script : String} (h : Keeps st (x ++ .invoked script :: y)) :
    (st.after x).passing = false := (keeps_append.mp h).2.1 script rfl

/-- **Whether a run is in its remote part, read off its trace.**  By induction on the trace from
its end. -/
theorem remote_after_iff : (initial.after acts).remote = true ↔ InRemotePart acts := by
  induction acts using List.reverseRecOn with
  | nil => simp [InRemotePart, not_since_nil, initial, after]
  | append_singleton acts a ih =>
    rw [after_append, after, List.foldl_cons, List.foldl_nil, InRemotePart, since_concat,
      ← InRemotePart, ← ih]
    cases a with
    | dispatched line => simp [next]
    | _ => simp [next]

/-- **Lines that are passed on stay remote where the local shell is used as it may.** -/
theorem Keeps.staysRemote (h : Keeps initial acts) : StaysRemote acts := by
  rintro before line between script rest rfl hpass hremote
  by_contra hnone
  have hbetween : ∀ a ∈ between, Undispatched a := by
    intro a ha
    cases a with
    | dispatched other => exact absurd ⟨other, ha⟩ hnone
    | _ => exact trivial
  -- with no dispatch in between, the standing at the use is the one that the line has left
  rw [← List.cons_append, ← List.append_assoc] at h
  have hlast := h.passing
  rw [after_append, after, List.foldl_cons] at hlast
  change ((next (initial.after before) (.dispatched line)).after between).passing = false at hlast
  rw [after_of_undispatched hbetween] at hlast
  simp [next, remote_after_iff.mpr hremote, hpass] at hlast

end Lemmas

end Standing

/-! ## What runs keep -/

/-- Whether a part of a run keeps the local shell out of the remote part, which it enters and leaves
with a connection held for as long as the run goes on. -/
def KeepsRemote (goes : Bool) (s t : Session σ) : Prop :=
  ∃ acts, t.remote.trace = s.remote.trace ++ acts ∧
    ∀ st : Standing, (st.remote = true → Held s.remote) →
      st.Keeps acts ∧ (goes = true → (st.after acts).remote = true → Held t.remote)

section Keeping

variable {r : Runner σ} {runFile : FileRunner σ} {line : Line} {file after : Option FileRun}
  {s t : Session σ} {outcome : Outcome} {acts : List Activity}

/-- What dispatches nothing and does not use the local shell keeps the connection as it is. -/
theorem KeepsRemote.of_isRemote {goes : Bool} (htrace : t.remote.trace = s.remote.trace ++ acts)
    (hacts : ∀ a ∈ acts, Undispatched a) (hkeeps : ∀ st : Standing, st.Keeps acts)
    (hheld : Held s.remote → Held t.remote) : KeepsRemote goes s t := by
  refine ⟨acts, htrace, fun st hst => ⟨hkeeps st, ?_⟩⟩
  rw [Standing.after_of_undispatched hacts]
  exact fun _ hremote => hheld (hst hremote)

/-- **A line does not use the local shell if it is passed on in the remote part,** and a connection
is held after it in the remote part if the run goes on. -/
theorem keepsRemote_perform (hrun : line.keyword ≠ .run)
    (h : perform r runFile line file (s.note [.dispatched line]) = some (outcome, after, t)) :
    KeepsRemote outcome.canContinue s t := by
  have hcarried := carriedOut_perform hrun h
  obtain ⟨acts, htrace, hacts⟩ := hcarried.grows
  refine ⟨.dispatched line :: acts, ?_, ?_⟩
  · rw [htrace]
    exact List.append_assoc _ _ _
  · intro st hst
    refine ⟨⟨by rintro script ⟨⟩, ?_⟩, ?_⟩
    · by_cases hpassing : (st.next (.dispatched line)).passing = true
      · -- the line is sent, since the connection is held in the remote part
        simp only [Standing.next, Bool.and_eq_true, decide_eq_true_eq] at hpassing
        obtain ⟨hremote, hpass⟩ := hpassing
        have hconnected : (s.note [.dispatched line]).remote.isConnected = true := (hst hremote).1
        rw [perform_passthrough hpass hconnected] at h
        obtain ⟨⟨outcome', u⟩, hsent, hkept⟩ := Option.map_eq_some_iff.mp h
        cases hkept
        obtain ⟨acts', htrace', hacts'⟩ := grows_sendLine r hsent
        obtain rfl : acts' = acts := List.append_cancel_left (htrace'.symm.trans htrace)
        exact Standing.keeps_of_isRemote hacts'
      · exact Standing.keeps_of_not_passing (by simpa using hpassing) hacts
    · -- the run is in its remote part after a line that opens a session, or was and stays there
      intro hgoes hremote
      rw [Standing.after, List.foldl_cons] at hremote
      change ((st.next (.dispatched line)).after acts).remote = true at hremote
      rw [Standing.after_of_undispatched hacts] at hremote
      simp only [Standing.next, Bool.or_eq_true, Bool.and_eq_true, decide_eq_true_eq,
        bne_iff_ne] at hremote
      obtain hopens | ⟨hremote, hstays⟩ := hremote
      · exact hcarried.held hgoes (by simp [hopens]) (.inl hopens)
      · exact hcarried.held hgoes hstays (.inr (hst hremote))

/-- **Runs keep the local shell out of their remote part.** -/
theorem carried_keepsRemote (r : Runner σ) : Carried r (KeepsRemote (σ := σ)) where
  refl s := .of_isRemote (List.append_nil _).symm (by simp) (fun _ => trivial) id
  trans := by
    rintro goes s t u ⟨acts, htrace, hacts⟩ ⟨more, htrace', hmore⟩
    refine ⟨acts ++ more, by rw [htrace', htrace, List.append_assoc], ?_⟩
    intro st hst
    obtain ⟨hkeeps, hheld⟩ := hacts st hst
    -- the second part begins with the standing that the first one has left
    obtain ⟨hkeeps', hheld'⟩ := hmore (st.after acts) (hheld rfl)
    rw [Standing.keeps_append, Standing.after_append]
    exact ⟨⟨hkeeps, hkeeps'⟩, hheld'⟩
  weaken := by
    rintro s t ⟨acts, htrace, hacts⟩
    exact ⟨acts, htrace, fun st hst => ⟨(hacts st hst).1, fun hgoes => absurd hgoes (by decide)⟩⟩
  say := by
    rintro goes s t text ⟨acts, htrace, hacts⟩
    have hshown : ∀ a ∈ [Activity.shown (.line text)], Undispatched a := by simp [Undispatched]
    refine ⟨acts ++ [.shown (.line text)], ?_, ?_⟩
    · rw [← List.append_assoc, ← htrace]
      rfl
    · intro st hst
      obtain ⟨hkeeps, hheld⟩ := hacts st hst
      rw [Standing.keeps_append, Standing.after_append, Standing.after_of_undispatched hshown]
      exact ⟨⟨hkeeps, by simp [Standing.Keeps]⟩, hheld⟩
  remote := by
    rintro goes s t u heq - - ⟨acts, htrace, hacts⟩
    rw [KeepsRemote, heq]
    exact ⟨acts, htrace, hacts⟩
  started s name store := .of_isRemote rfl (by simp [Undispatched]) (by simp [Standing.Keeps]) id
  pause s := by
    have hpause := Leaves.pause r s .dispatching
    obtain ⟨acts, h⟩ := Remote.Session.delivers_pause r.around.host r.setup s.remote .dispatching
    have hacts := h.arrives.isRemote
    exact .of_isRemote h.trace_eq (fun a ha => undispatched_of_isRemote a (hacts a ha))
      (fun st => Standing.keeps_of_isRemote hacts) hpause.held
  runs s line hrun := by
    refine ⟨[.dispatched line], rfl, fun st hst => ⟨⟨by rintro script ⟨⟩, trivial⟩, ?_⟩⟩
    intro _ hremote
    simp [Standing.after, Standing.next, hrun] at hremote
    exact hst hremote
  perform _ := keepsRemote_perform

/-- What has been done in the remote part, and that a connection is held there. -/
theorem KeepsRemote.read {goes : Bool} (h : KeepsRemote goes s t) :
    ∃ acts, t.remote.trace = s.remote.trace ++ acts ∧ StaysRemote acts ∧
      (goes = true → InRemotePart acts → Held t.remote) := by
  obtain ⟨acts, htrace, hacts⟩ := h
  obtain ⟨hkeeps, hheld⟩ := hacts .initial (by simp [Standing.initial])
  exact ⟨acts, htrace, hkeeps.staysRemote,
    fun hgoes hremote => hheld hgoes (Standing.remote_after_iff.mpr hremote)⟩

end Keeping

/-! ## Lines that are sent -/

/-- Whether a connection has been closed, and nothing of it is held any more. -/
def Disconnected (connection : Nat) (s t : Session σ) : Prop :=
  t.remote.channel = none ∧ t.remote.endpoint = none ∧
    ∃ acts, t.remote.trace = s.remote.trace ++ acts ∧ (∀ a ∈ acts, Remote.IsRemote a) ∧
      .closed connection ∈ acts

/-- Whether the line at a place is sent: a connection is held, the turn is what the send comes to,
and all that the send notes is the session's own, beginning with the write of the line unless the
stream has failed before. -/
def SentAt (r : Runner σ) (p : Place σ) (line : Line) : Prop :=
  Held p.session.remote ∧
  p.turn r = (sendLine r line (carrying r line p.session)).map
    (fun (outcome, t) => .ofDispatch line p.file (outcome, some p.file, t)) ∧
  ∃ acts, ((carrying r line p.session).remote.send r.around.host r.setup line.raw).2.trace =
      (carrying r line p.session).remote.trace ++ acts ∧
    (∀ a ∈ acts, Remote.IsRemote a) ∧
    ∀ connection, p.session.remote.channel = some connection →
      (carrying r line p.session).remote.inbox.streamError = none →
      [.sending (trimmed line.raw), .wrote connection (trimmed line.raw ++ "\r")] <+: acts

section Sending

variable {r : Runner σ} {line : Line} {s : Session σ} {p : Place σ} {connection : Nat}
  {cause : Failure}

/-- What comes in before a line is dispatched leaves the connection alone. -/
theorem channel_pause (r : Runner σ) (s : Session σ) (m : Remote.Moment) :
    (s.pause r m).remote.channel = s.remote.channel := by
  obtain ⟨acts, h⟩ := delivers_pause r.around.host r.setup s.remote m
  exact h.channel_eq

/-- A line of a file is carried out with the connection that was held. -/
theorem channel_carrying (r : Runner σ) (line : Line) (s : Session σ) :
    (carrying r line s).remote.channel = s.remote.channel :=
  channel_pause r (s.say ("> " ++ line.masked)) .dispatching

/-- A typed line is carried out with the connection that was held. -/
theorem Call.channel_carrying (r : Runner σ) (line : Line) (s : Session σ) :
    (Call.carrying r line s).remote.channel = s.remote.channel :=
  channel_pause r { s with mode := .userInput } .dispatching

/-- A line of a file is carried out with a connection held if one was held. -/
theorem held_carrying (r : Runner σ) (line : Line) (h : Held s.remote) :
    Held (carrying r line s).remote :=
  (Leaves.pause r (s.say ("> " ++ line.masked)) .dispatching).held h

/-- A line that is passed on where a connection is held is sent. -/
theorem sentAt_of_held (hline : p.line? r = some line) (hpass : line.keyword = .passthrough)
    (hheld : Held p.session.remote) : SentAt r p line := by
  have hcarried : Held (carrying r line p.session).remote := held_carrying r line hheld
  have hconnected : (carrying r line p.session).remote.isConnected = true := hcarried.1
  refine ⟨hheld, ?_, ?_⟩
  · rw [Place.turn_of_line hline, perform_passthrough hpass hconnected, Option.map_map]
    rfl
  · obtain ⟨acts, htrace, hacts, -, -, hwrites⟩ :=
      send_spec r.around.host r.setup (carrying r line p.session).remote line.raw
    exact ⟨acts, htrace, hacts, fun c hchannel hcalm =>
      hwrites c hcarried ((channel_carrying r line p.session).trans hchannel) hcalm⟩

/-- Hanging up closes the connection. -/
theorem disconnected_hangUp {u : Session σ} {acts : List Activity}
    (htrace : u.remote.trace = s.remote.trace ++ acts) (hacts : ∀ a ∈ acts, Remote.IsRemote a)
    (hchannel : u.remote.channel = some connection) :
    Disconnected connection s (hangUp r u).2 := by
  obtain ⟨hnone, hnone', more, hmore, hremote, hclosed⟩ :=
    disconnect_spec r.around.host r.setup hchannel
  refine ⟨hnone, hnone', acts ++ more, ?_, List.forall_mem_append.mpr ⟨hacts, hremote⟩,
    List.mem_append_right acts hclosed⟩
  rw [hangUp, hmore, htrace, List.append_assoc]

/-- **A line that fails stops the run and closes the connection.** -/
theorem sendLine_failed (hchannel : s.remote.channel = some connection)
    (hfailed : (s.remote.send r.around.host r.setup line.raw).1 = .failed cause) :
    ∃ t, sendLine r line s = some (.halt, t) ∧ Disconnected connection s t := by
  obtain ⟨acts, htrace, hacts, hkept, -⟩ :=
    send_spec r.around.host r.setup s.remote line.raw
  have hheld := hkept.trans hchannel
  set sent := s.remote.send r.around.host r.setup line.raw with hsent
  have hsaid : ∀ text, Disconnected connection s
      (hangUp r ({ s with remote := sent.2 }.say text)).2 := by
    intro text
    have htrace' : ({ s with remote := sent.2 }.say text).remote.trace =
        s.remote.trace ++ (acts ++ [.shown (.line text)]) := by
      rw [← List.append_assoc, ← htrace]
      rfl
    refine disconnected_hangUp htrace' ?_ hheld
    exact List.forall_mem_append.mpr ⟨hacts, List.forall_mem_singleton.mpr trivial⟩
  rw [sendLine_eq, ← hsent]
  dsimp only
  rw [hfailed]
  cases cause with
  | streamClosed reason =>
    -- the failure has been shown when the stream broke
    exact ⟨_, rfl, disconnected_hangUp htrace hacts hheld⟩
  | _ => exact ⟨_, rfl, hsaid _⟩

/-- A line that fails at a place halts the run there. -/
theorem halts_of_failed (hline : p.line? r = some line) (hpass : line.keyword = .passthrough)
    (hchannel : p.session.remote.channel = some connection)
    (hfailed : ((carrying r line p.session).remote.send r.around.host r.setup line.raw).1 =
      .failed cause) :
    ∃ t, Halts r p .halt t ∧ Disconnected connection (carrying r line p.session) t := by
  rw [← channel_carrying r line] at hchannel
  obtain ⟨t, hsent, hclosed⟩ := sendLine_failed (s := carrying r line p.session) hchannel hfailed
  have hconnected : (carrying r line p.session).remote.isConnected = true :=
    Option.isSome_iff_exists.mpr ⟨connection, hchannel⟩
  have hperform : perform r (runFile r p.depth) line (some p.file) (carrying r line p.session) =
      some (.halt, some p.file, t) := by
    rw [perform_passthrough hpass hconnected, hsent]
    rfl
  exact ⟨t, .line hline hperform rfl, hclosed⟩

end Sending

/-! ## The main statement -/

/-- **Lines for a remote host never run locally.**  However deep files may run inside each other, at
every place that a call comes to, and when it returns, the local shell has not been used for a line
that was passed on in the remote part, and such a line is sent where it is dispatched.  Whenever a
line that is passed on fails while a connection is held, in a file or typed, the call halts, and the
connection is closed and no longer held.  What comes of a call is its run with the bound of the
program. -/
theorem passthrough_stays_remote (r : Runner σ) (depth : Nat) (call : Call) (s : Session σ) :
    (∀ names p, call.Comes r depth s names p →
      ∃ acts, p.session.remote.trace = s.remote.trace ++ acts ∧ StaysRemote acts ∧
        ∀ line, p.line? r = some line → line.keyword = .passthrough → InRemotePart acts →
          SentAt r p line) ∧
    (∀ outcome t, call.run r depth s = some (outcome, t) →
      ∃ acts, t.remote.trace = s.remote.trace ++ acts ∧ StaysRemote acts) ∧
    (∀ names p line connection cause, call.Comes r depth s names p → p.line? r = some line →
      line.keyword = .passthrough → p.session.remote.channel = some connection →
      ((carrying r line p.session).remote.send r.around.host r.setup line.raw).1 = .failed cause →
      ∃ t location, Disconnected connection (carrying r line p.session) t ∧
        call.run r depth s =
          some (.halt, { unwound names t with mode := call.modeAfter s, location })) ∧
    (∀ line connection cause, call.line? r s = some line → line.keyword = .passthrough →
      s.remote.channel = some connection →
      ((Call.carrying r line s).remote.send r.around.host r.setup line.raw).1 = .failed cause →
      ∃ t, Disconnected connection (Call.carrying r line s) t ∧
        call.run r depth s = some (.halt, t)) ∧
    call.result r s = call.run r maxDepth s := by
  refine ⟨?_, ?_, ?_, ?_, call.result_eq r s⟩
  · intro names p hcomes
    obtain ⟨acts, htrace, hstays, hheld⟩ := ((carried_keepsRemote r).call_comes hcomes).read
    exact ⟨acts, htrace, hstays,
      fun line hline hpass hremote => sentAt_of_held hline hpass (hheld rfl hremote)⟩
  · intro outcome t hrun
    obtain ⟨acts, htrace, hstays, -⟩ := ((carried_keepsRemote r).call_run hrun).read
    exact ⟨acts, htrace, hstays⟩
  · intro names p line connection cause hcomes hline hpass hchannel hfailed
    obtain ⟨t, hhalts, hclosed⟩ := halts_of_failed hline hpass hchannel hfailed
    obtain ⟨location, hrun⟩ := hcomes.run_of_halts hhalts
    exact ⟨t, location, hclosed, hrun⟩
  · intro line connection cause hline hpass hchannel hfailed
    rw [← Call.channel_carrying r line] at hchannel
    obtain ⟨t, hsent, hclosed⟩ := sendLine_failed (s := Call.carrying r line s) hchannel hfailed
    have hconnected : (Call.carrying r line s).remote.isConnected = true :=
      Option.isSome_iff_exists.mpr ⟨connection, hchannel⟩
    cases call with
    | script => cases hline
    | line text =>
      rw [Call.run_of_line hline, perform_passthrough hpass hconnected, hsent]
      exact ⟨t.refresh r, hclosed, rfl⟩

/-! ## A connection that breaks -/

/-- A host that shows a prompt, and then takes nothing in. -/
def deafHost : Remote.Host Unit where
  openShell connection _ _ w :=
    { deliveries := [⟨connection, .data "deploy@box:~$ ".toUTF8.toList⟩], world := w }
  write _ _ w := { failure := some (.writeFailed "broken pipe"), world := w }
  flush _ w := { world := w }
  close _ w := { world := w }
  await _ w := .nothing w
  pause _ w := ([], w)

/-- A script that opens a session and then lists a directory there. -/
def listing : Call := .script "list.txt" "ssh deploy@box -#p hunter2\nls\necho done\n" {}

/-- The listing is sent and fails, the script halts without the line after it, and the connection is
closed; so is one at which a typed line fails. -/
theorem passthrough_stays_remote_listing :
    let r := tableRunner deafHost []
    let s := r.newSession ()
    let ls := Line.parse .builtin "ls"
    ∃ p, listing.Comes r maxDepth s [] p ∧ p.line? r = some ls ∧ SentAt r p ls ∧
      (∃ t location, Disconnected 0 (carrying r ls p.session) t ∧
        listing.result r s =
          some (.halt, { unwound [] t with mode := .userInput, location })) ∧
      ∃ t, Disconnected 0 (Call.carrying r ls p.session) t ∧
        (Call.line "ls").result r p.session = some (.halt, t) := by
  intro r s ls
  let p : Place Unit :=
    ((Place.start maxDepth "list.txt" {} "ssh deploy@box -#p hunter2\nls\necho done\n"
      { s with mode := .fileRun }).next? r).get (by decide +kernel)
  have hcomes : listing.Comes r maxDepth s [] p :=
    .script (.next (Option.some_get _).symm (.here p))
  have hline : p.line? r = some ls := by decide +kernel
  have hpass : ls.keyword = .passthrough := by decide +kernel
  have hchannel : p.session.remote.channel = some 0 := by decide +kernel
  obtain ⟨hplaces, -, hfails, -, hresult⟩ := passthrough_stays_remote r maxDepth listing s
  refine ⟨p, hcomes, hline, ?_, ?_, ?_⟩
  · obtain ⟨acts, htrace, -, hsent⟩ := hplaces [] p hcomes
    have hacts : p.session.remote.trace = acts := htrace.trans (List.nil_append acts)
    refine hsent ls hline hpass ?_
    rw [← hacts]
    exact Standing.remote_after_iff.mp (by decide +kernel)
  · rw [hresult]
    exact hfails [] p ls 0 (.writeFailed "broken pipe") hcomes hline hpass hchannel
      (by decide +kernel)
  · obtain ⟨-, -, -, htyped, hresult⟩ := passthrough_stays_remote r maxDepth (.line "ls") p.session
    rw [hresult]
    exact htyped ls 0 (.writeFailed "broken pipe") (by decide +kernel) hpass hchannel
      (by decide +kernel)

end ScriptedShell.Run
