/-
# Streams that have failed

A host tells when the stream of a connection has failed, and the console is told at once
(`ReportsFailures`).  From then on, and until it disconnects, a session remembers the latest
failure of its stream: along a send (`along_remembers`), in every step (`Open.remembers_step`) and
in every run (`Open.remembers_run`).  It refuses every line with that failure, and neither writes
nor changes anything (`dead_stream_run`).
-/
import Mathlib
import ScriptedShell.Proofs.Remote.Lifecycle
import ScriptedShell.Remote.Login

namespace ScriptedShell.Remote

open Inbox Text

/-! ## Failures in a trace -/

/-- The failure of the stream that an activity is, if it is one. -/
def failure? : Activity → Option Failure
  | .broke cause => some cause
  | _ => none

/-- The failures of the stream in a trace, in order. -/
def failures (acts : List Activity) : List Failure := acts.filterMap failure?

@[simp] theorem failures_append (x y : List Activity) :
    failures (x ++ y) = failures x ++ failures y := List.filterMap_append

/-- The failures known after one more activity; a connection that is asked for begins without
one. -/
def noteFailure (known : List Failure) : Activity → List Failure
  | .opening .. => []
  | .broke cause => known ++ [cause]
  | _ => known

/-- The failures of the stream of the connection that was last asked for in a trace. -/
def streamFailures (trace : List Activity) : List Failure := trace.foldl noteFailure []

/-- While no connection is asked for, all failures are of the same stream. -/
theorem streamFailures_append (trace : List Activity) {acts : List Activity}
    (h : Session.AsksForNone acts) :
    streamFailures (trace ++ acts) = streamFailures trace ++ failures acts := by
  induction acts using List.reverseRecOn with
  | nil => simp [failures]
  | append_singleton acts a ih =>
    have hacts : Session.AsksForNone acts := fun c endpoint timeout hmem =>
      h c endpoint timeout (List.mem_append_left _ hmem)
    rw [streamFailures, ← List.append_assoc, List.foldl_append, ← streamFailures, ih hacts,
      failures_append]
    cases a with
    | opening c endpoint timeout =>
      exact absurd (List.mem_append_right _ List.mem_cons_self) (h c endpoint timeout)
    | broke cause => exact List.append_assoc _ _ _
    | _ => exact (congrArg (streamFailures trace ++ ·) (List.append_nil _)).symm

/-- The failures of the latest stream are failures in the trace. -/
theorem mem_of_mem_streamFailures {cause : Failure} {trace : List Activity}
    (h : cause ∈ streamFailures trace) : .broke cause ∈ trace := by
  induction trace using List.reverseRecOn with
  | nil => exact absurd h List.not_mem_nil
  | append_singleton trace a ih =>
    rw [streamFailures, List.foldl_append, ← streamFailures] at h
    cases a with
    | opening c endpoint timeout => exact absurd h List.not_mem_nil
    | broke other =>
      rcases List.mem_append.mp h with h | h
      · exact List.mem_append_left _ (ih h)
      · rw [List.mem_singleton.mp h]
        exact List.mem_append_right _ List.mem_cons_self
    | _ => exact List.mem_append_left _ (ih h)

/-- Whether the console is told of every failure in a trace right when it happens. -/
def ReportsFailures (acts : List Activity) : Prop :=
  ∀ cause, .broke cause ∈ acts → [.broke cause, .shown (.line cause.message)] <:+: acts

namespace ReportsFailures

variable {acts more : List Activity}

/-- Where nothing fails there is nothing to tell. -/
theorem of_not_mem (h : ∀ cause, .broke cause ∉ acts) : ReportsFailures acts :=
  fun cause hmem => absurd hmem (h cause)

/-- Failures are reported in one trace and in the next. -/
theorem append (h : ReportsFailures acts) (h' : ReportsFailures more) :
    ReportsFailures (acts ++ more) := by
  intro cause hmem
  rcases List.mem_append.mp hmem with hmem | hmem
  · exact (h cause hmem).trans (List.prefix_append acts more).isInfix
  · exact (h' cause hmem).trans (List.suffix_append acts more).isInfix

end ReportsFailures

namespace Inbox.Arrives

variable {width : Nat} {b b' : Inbox} {acts : List Activity}

/-- Failures are reported while deliveries come in. -/
theorem reportsFailures (h : Arrives width b acts b') : ReportsFailures acts := by
  induction h with
  | done b => exact .of_not_mem fun _ => List.not_mem_nil
  | hold bytes _ ih => exact ih
  | @line b b' acts text _ _ ih =>
    have hshown : ReportsFailures
        (.heard text (b.classify text) :: b.display width text (b.classify text)) := by
      refine .of_not_mem fun cause hmem => ?_
      rcases List.mem_cons.mp hmem with heq | hmem
      · cases heq
      · obtain ⟨entry, heq⟩ := shown_of_mem_display hmem
        cases heq
    exact hshown.append ih
  | @broke b b' acts cause _ ih =>
    have hfailed : ReportsFailures [.broke cause, .shown (.line cause.message)] := by
      intro other hmem
      obtain rfl : other = cause := by simpa using hmem
      exact List.infix_rfl
    exact hfailed.append ih
  | call a ha _ ih =>
    have hcall : ReportsFailures [a] := by
      refine .of_not_mem fun cause hmem => ?_
      obtain ⟨c, hc⟩ := ha
      rw [List.mem_singleton.mp hmem |>.symm] at hc
      simp at hc
    exact hcall.append ih

/-- The failure that an inbox knows of is the latest one. -/
theorem streamError_eq_latest (h : Arrives width b acts b') :
    b'.streamError = ((failures acts).getLast?.map Failure.message).or b.streamError := by
  induction h with
  | done b => rfl
  | hold bytes _ ih => exact ih
  | @line b b' acts text _ _ ih =>
    have hnone : failures (.heard text (b.classify text) ::
        (b.display width text (b.classify text) ++ acts)) = failures acts := by
      have hdisplay : failures (b.display width text (b.classify text)) = [] := by
        rw [failures, List.filterMap_eq_nil_iff]
        intro a ha
        obtain ⟨entry, rfl⟩ := shown_of_mem_display ha
        rfl
      rw [failures, List.filterMap_cons_none rfl, ← failures, failures_append, hdisplay,
        List.nil_append]
    rw [ih, hnone]
    cases b.classify text <;> rfl
  | @broke b b' acts cause _ ih =>
    have hfirst : failures (.broke cause :: .shown (.line cause.message) :: acts) =
        cause :: failures acts := rfl
    rw [ih, hfirst, List.getLast?_cons]
    cases (failures acts).getLast? <;> rfl
  | call a ha _ ih => rcases ha with ⟨c, rfl | rfl | rfl⟩ <;> exact ih

end Inbox.Arrives

/-- Whether what a host fails a write or a flush for is told apart from the failures of its streams,
which come in as deliveries only. -/
structure Host.RefusesApart {σ : Type} (host : Host σ) : Prop where
  write : ∀ connection text world reason,
    (host.write connection text world).failure ≠ some (.streamClosed reason)
  flush : ∀ connection world reason,
    (host.flush connection world).failure ≠ some (.streamClosed reason)

/-- Typing at the program of a login fails because it has been closed or because the terminal does
not take the text, and never because of its stream. -/
theorem Login.failure_write (l : Login) (text : String) (fault? : Option String) :
    (l.write text fault?).failure? =
      if l.isOpen then fault?.map .writeFailed else some .notConnected := by
  unfold Login.write
  split_ifs
  · cases fault? <;> rfl
  · rfl

namespace Session

variable {σ : Type}

/-! ## Remembering -/

/-- Whether a session goes on with the same connection, reports the failures of its stream and
remembers the latest one. -/
structure Remembers (s t : Session σ) : Prop where
  channel_eq : t.channel = s.channel
  follows : ∃ acts, t.trace = s.trace ++ acts ∧ AsksForNone acts ∧ ReportsFailures acts ∧
    t.inbox.streamError = ((failures acts).getLast?.map Failure.message).or s.inbox.streamError

namespace Remembers

variable {s t u : Session σ} {acts : List Activity}

/-- A session that has remembered goes on remembering. -/
theorem trans (h : Remembers s t) (h' : Remembers t u) : Remembers s u where
  channel_eq := h'.channel_eq.trans h.channel_eq
  follows := by
    obtain ⟨x, htrace, hx, hreports, hreason⟩ := h.follows
    obtain ⟨y, htrace', hy, hreports', hreason'⟩ := h'.follows
    refine ⟨x ++ y, by rw [htrace', htrace, List.append_assoc], ?_, hreports.append hreports', ?_⟩
    · intro c endpoint timeout
      rw [List.mem_append, not_or]
      exact ⟨hx c endpoint timeout, hy c endpoint timeout⟩
    · rw [hreason', hreason, failures_append, List.getLast?_append]
      cases (failures y).getLast? <;> rfl

/-- While deliveries come in, a session remembers. -/
theorem of_delivers {width : Nat} (h : Delivers width s acts t) : Remembers s t where
  channel_eq := h.channel_eq
  follows := ⟨acts, h.trace_eq, fun c endpoint timeout =>
    h.arrives.not_mem_of_told (.inl ⟨c, endpoint, timeout, rfl⟩), h.arrives.reportsFailures,
    h.arrives.streamError_eq_latest⟩

/-- Noting something that is neither a failure nor a request for a connection. -/
theorem note (s : Session σ) {a : Activity} (hfailure : failure? a = none)
    (hasks : AsksForNone [a]) : Remembers s (s.note [a]) where
  channel_eq := rfl
  follows := by
    refine ⟨[a], rfl, hasks, .of_not_mem fun cause hmem => ?_, ?_⟩
    · rw [← List.mem_singleton.mp hmem] at hfailure
      cases hfailure
    · rw [failures, List.filterMap_cons_none hfailure]
      rfl

/-- Writing an entry to the console. -/
theorem display (s : Session σ) (entry : Terminal.Entry) : Remembers s (s.display entry) :=
  .note s rfl (by simp [AsksForNone])

/-- Changes of the inbox that leave the known failure alone. -/
theorem inbox (s : Session σ) (b : Inbox) (hreason : b.streamError = s.inbox.streamError) :
    Remembers s { s with inbox := b } where
  channel_eq := rfl
  follows := ⟨[], (List.append_nil _).symm, fun _ _ _ => List.not_mem_nil,
    .of_not_mem fun _ => List.not_mem_nil, hreason⟩

/-- Nothing happens. -/
theorem refl (s : Session σ) : Remembers s s := .inbox s s.inbox rfl

end Remembers

/-- A session remembers along a send. -/
theorem along_remembers (setup : Setup) : Along setup (@Remembers σ) where
  refl := .refl
  trans := .trans
  delivers := .of_delivers
  begun s text := by
    have hsending := Remembers.inbox s
      (s.inbox.sending text (contains text setup.settings.sudoMarker)) rfl
    exact hsending.trans (.note _ rfl (by simp [AsksForNone]))
  wrote s connection text := .note s rfl (by simp [AsksForNone])
  giveUpCue s := .inbox s _ rfl
  lower s := .inbox s _ rfl
  collect s := .inbox s _ rfl

/-! ## What is known of a stream -/

/-- Whether the failures of a session's stream are reported and the latest one is known. -/
structure Knows (s : Session σ) : Prop where
  reported : ReportsFailures s.trace
  reason : s.inbox.streamError = (streamFailures s.trace).getLast?.map Failure.message

/-- What is known of a stream stays known. -/
theorem Knows.remembers {s t : Session σ} (h : Knows s) (hremembers : Remembers s t) : Knows t := by
  obtain ⟨acts, htrace, hnone, hreports, hreason⟩ := hremembers.follows
  refine ⟨?_, ?_⟩
  · rw [htrace]
    exact h.reported.append hreports
  · rw [hreason, h.reason, htrace, streamFailures_append s.trace hnone, List.getLast?_append]
    cases (failures acts).getLast? <;> rfl

section Connect

variable (host : Host σ) (setup : Setup) {s : Session σ}

/-- Nothing has failed yet on a connection that has just been asked for. -/
theorem knows_dialed (h : ReportsFailures s.trace) (endpoint : Endpoint) :
    Knows (s.dialed setup endpoint) where
  reported := h.append (.of_not_mem fun cause hmem => by simp at hmem)
  reason := by
    rw [dialed, note, streamFailures, List.foldl_append]
    rfl

/-- What happens to the stream during an attempt to connect is known, however the attempt ends. -/
theorem knows_attempt (h : ReportsFailures s.trace) (endpoint : Endpoint) :
    Knows (s.attempt host setup endpoint).2 := by
  obtain ⟨t, hremembers, heq | heq⟩ :=
    along_attempt host setup (along_remembers setup).toAlongWaits s endpoint
  all_goals
    have hknows : Knows t := (knows_dialed setup h endpoint).remembers hremembers
    rw [heq]
    exact ⟨hknows.reported, hknows.reason⟩

end Connect

/-! ## Steps and runs -/

/-- Whether a session reports the failures of its streams, and knows the latest one of the
connection that it holds. -/
structure Aware (s : Session σ) : Prop where
  reported : ReportsFailures s.trace
  knows : ∀ c, s.channel = some c → Knows s

namespace Aware

variable {s t : Session σ}

/-- A session that knows of its stream is aware of its failures. -/
theorem of_knows (h : Knows s) : Aware s := ⟨h.reported, fun _ _ => h⟩

/-- A session without a connection has nothing to know of. -/
theorem of_none (hreported : ReportsFailures s.trace) (hchannel : s.channel = none) : Aware s := by
  refine ⟨hreported, fun c hc => ?_⟩
  rw [hchannel] at hc
  cases hc

/-- A new session is aware of all failures that there are. -/
theorem new (world : σ) : Aware ({ world } : Session σ) :=
  .of_none (.of_not_mem fun _ => List.not_mem_nil) rfl

end Aware

section Runs

variable (host : Host σ) (setup : Setup) {s : Session σ}

/-- With a connection open, every step but disconnecting remembers the failures of its stream. -/
theorem Open.remembers_step {c : Nat} (h : Open s c) {a : Step σ} (ha : a ≠ .disconnect) :
    Remembers s (s.step host setup a) := by
  cases a with
  | connect endpoint =>
    obtain ⟨current, hcurrent⟩ := Option.isSome_iff_exists.mp h.endpoint_isSome
    rw [step, connect, hcurrent]
    exact .refl s
  | send text => exact along_send host setup (along_remembers setup) s text
  | enterRedraw row =>
    rw [step, enterRedraw]
    split_ifs
    · obtain ⟨x, hx⟩ := delivers_pause host setup (s.display .clear) .drawing
      exact (Remembers.display s .clear).trans ((Remembers.of_delivers hx).trans (.inbox _ _ rfl))
    · exact .refl s
  | exitRedraw => exact .inbox s _ rfl
  | disconnect => exact absurd rfl ha
  | deliver d =>
    obtain ⟨acts, hd⟩ := delivers_deliver setup.width s d
    exact .of_delivers hd
  | elapse world => exact .of_delivers (.none s world : Delivers setup.width s [] _)

/-- Until it disconnects, a session with a connection open remembers the failures of its stream. -/
theorem Open.remembers_run {c : Nat} (h : Open s c) {steps : List (Step σ)}
    (hsteps : .disconnect ∉ steps) : Remembers s (s.run host setup steps) := by
  induction steps generalizing s with
  | nil => exact .refl s
  | cons a steps ih =>
    rw [List.mem_cons, not_or] at hsteps
    have hstep := h.remembers_step host setup (Ne.symm hsteps.1)
    have hopen : Open (s.step host setup a) c :=
      (Settled.step host setup (.inr ⟨c, h⟩) a).open_of_channel
        (hstep.channel_eq.trans h.channel_eq)
    exact hstep.trans (ih hopen hsteps.2)

/-- Connecting leaves a session aware of the failures of its streams. -/
theorem Aware.connect (h : Aware s) (hsettled : Settled s) (endpoint : Endpoint) :
    Aware (s.connect host setup endpoint).2 := by
  have hsay : ∀ (t : Session σ) (text : String), Searching t ∧ ReportsFailures t.trace →
      Searching (t.say text) ∧ ReportsFailures (t.say text).trace := by
    rintro t text ⟨hsearch, hreported⟩
    exact ⟨hsearch.keeps (.note t rfl (by simp [AsksForNone])),
      hreported.append (.of_not_mem fun cause hmem => by simp at hmem)⟩
  have hpause : ∀ t : Session σ, Searching t ∧ ReportsFailures t.trace →
      Searching (t.pause host setup .retrying) ∧
        ReportsFailures (t.pause host setup .retrying).trace := by
    rintro t ⟨hsearch, hreported⟩
    obtain ⟨x, hx⟩ := delivers_pause host setup t .retrying
    refine ⟨hsearch.keeps (.of_delivers hx), ?_⟩
    rw [hx.trace_eq]
    exact hreported.append hx.arrives.reportsFailures
  have hattempt : ∀ t : Session σ, Searching t ∧ ReportsFailures t.trace →
      (∃ u, t.attempt host setup endpoint = (true, u) ∧ Knows u) ∨
        ∃ u, t.attempt host setup endpoint = (false, u) ∧
          Searching u ∧ ReportsFailures u.trace := by
    rintro t ⟨hsearch, hreported⟩
    have hknows := knows_attempt host setup hreported endpoint
    rcases hsearch.attempt host setup endpoint with ⟨u, heq, -⟩ | ⟨u, heq, hfailed⟩
    · rw [heq] at hknows
      exact .inl ⟨u, heq, hknows⟩
    · rw [heq] at hknows
      exact .inr ⟨u, heq, hfailed, hknows.reported⟩
  cases hnone : s.endpoint with
  | some current =>
    rw [Session.connect, hnone]
    exact h
  | none =>
    have hsearch : Searching s := (hsettled.shut_of_endpoint hnone).searching
    rcases connect_cases hsay hpause hattempt hnone ⟨hsearch, h.reported⟩ with
      ⟨t, heq, hknows⟩ | ⟨t, cause, text, heq, hfailed, hreported⟩
    · rw [heq]
      exact .of_knows (hknows.remembers (.display t _))
    · rw [heq]
      exact .of_none (hsay t text ⟨hfailed, hreported⟩).2 (hfailed.reset.say text).channel_eq

/-- Disconnecting leaves a session aware of the failures of its streams. -/
theorem Aware.disconnect (h : Aware s) : Aware (s.disconnect host setup).2 := by
  cases hchannel : s.channel with
  | none =>
    rw [Session.disconnect]
    simp only [hchannel]
    exact .of_none h.reported rfl
  | some c =>
    obtain ⟨x, hx⟩ := delivers_flush host setup { s with channel := none } c
    obtain ⟨y, hy⟩ := delivers_close host setup
      ({ s with channel := none }.flush host setup c).2 c
    have hxy := hx.trans hy
    rw [Session.disconnect, hchannel]
    refine .of_none ?_ hxy.channel_eq
    dsimp only [say, display, note, reset]
    rw [hxy.trace_eq]
    exact (h.reported.append hxy.arrives.reportsFailures).append
      (.of_not_mem fun cause hmem => by simp at hmem)

/-- Every step leaves a session aware of the failures of its streams. -/
theorem Aware.step (h : Aware s) (hsettled : Settled s) (a : Step σ) :
    Aware (s.step host setup a) := by
  rcases hsettled with hshut | ⟨c, hopen⟩
  · cases a with
    | connect endpoint => exact h.connect host setup (.inl hshut) endpoint
    | send text =>
      rw [Session.step, Session.send, hshut.endpoint_eq]
      exact h
    | enterRedraw row =>
      rw [Session.step, Session.enterRedraw, isConnected, hshut.channel_eq]
      exact h
    | exitRedraw => exact .of_none h.reported hshut.channel_eq
    | disconnect => exact h.disconnect host setup
    | deliver d =>
      rw [Session.step, hshut.deliver_eq]
      exact h
    | elapse world => exact .of_none h.reported hshut.channel_eq
  · by_cases ha : a = .disconnect
    · rw [ha]
      exact h.disconnect host setup
    · exact .of_knows ((h.knows c hopen.channel_eq).remembers (hopen.remembers_step host setup ha))

/-- Every run leaves a session aware of the failures of its streams. -/
theorem aware_run (h : Aware s) (hsettled : Settled s) (steps : List (Step σ)) :
    Aware (s.run host setup steps) := by
  induction steps generalizing s with
  | nil => exact h
  | cons a steps ih => exact ih (h.step host setup hsettled a) (hsettled.step host setup a)

end Runs

/-! ## Sending on a stream that has failed -/

section Refused

variable (host : Host σ) (setup : Setup) {s : Session σ}

/-- The end of a send that is refused for its stream knows the failure that it is refused for. -/
theorem reason_of_awaitOutput {reason : String}
    (h : (s.awaitOutput host setup).1 = .failed (.streamClosed reason)) :
    (s.awaitOutput host setup).2.inbox.streamError = some reason := by
  obtain ⟨x, t, -, ⟨-, heq⟩ | ⟨known, hknown, heq⟩ | heq⟩ :=
    waitForPrompt_spec setup.width s (host.await none s.world)
  · rw [awaitOutput, heq] at h
    cases h
  · rw [awaitOutput, heq] at h ⊢
    cases h
    exact hknown
  · rw [awaitOutput, heq] at h
    cases h

variable {host}

/-- Writing a line is never refused for the stream. -/
theorem enter_of_refusesApart (hhost : host.RefusesApart) (s : Session σ) (c : Nat)
    (text reason : String) : (s.enter host setup c text).1 ≠ some (.streamClosed reason) := by
  rw [enter]
  split
  · next cause t heq =>
    intro hreason
    rw [writeTo, Prod.mk.injEq] at heq
    exact hhost.write _ _ _ _ (heq.1.trans hreason)
  · exact hhost.flush _ _ _

/-- A send that is refused for its stream knows the failure that it is refused for. -/
theorem reason_of_sendThrough (hhost : host.RefusesApart) {c : Nat} {password text reason : String}
    (h : (s.sendThrough host setup c password text).1 = .failed (.streamClosed reason)) :
    (s.sendThrough host setup c password text).2.inbox.streamError = some reason := by
  rw [sendThrough_eq] at h ⊢
  have hwrite := enter_of_refusesApart setup hhost (s.begun setup text) c text reason
  rcases hent : (s.begun setup text).enter host setup c text with ⟨_ | cause, t⟩
  · rw [hent] at h
    dsimp only at h ⊢
    split_ifs at h ⊢
    · have hanswer : (t.answerCue host setup c password).1 ≠ some (.streamClosed reason) := by
        rw [answerCue]
        split
        · exact enter_of_refusesApart setup hhost _ _ _ _
        · exact (Option.some_ne_none _).symm
      rcases hans : t.answerCue host setup c password with ⟨_ | cause, u⟩
      · rw [hans] at h
        exact reason_of_awaitOutput host setup h
      · rw [hans] at h hanswer
        cases h
        exact absurd rfl hanswer
    · exact reason_of_awaitOutput host setup h
  · rw [hent] at h hwrite
    cases h
    exact absurd rfl hwrite

/-- A send that is refused for its stream is refused for the failure that the session knows of when
it returns. -/
theorem reason_of_send (hhost : host.RefusesApart) {text reason : String}
    (h : (s.send host setup text).1 = .failed (.streamClosed reason)) :
    (s.send host setup text).2.channel = s.channel ∧ s.channel.isSome = true ∧
      (s.send host setup text).2.inbox.streamError = some reason := by
  refine ⟨(along_send host setup (along_remembers setup) s text).channel_eq, ?_⟩
  rw [send] at h ⊢
  split at h
  · next endpoint c hendpoint hchannel =>
    refine ⟨by rw [hchannel]; rfl, ?_⟩
    split at h
    · next known hknown =>
      cases h
      exact hknown
    · next hcalm =>
      exact reason_of_sendThrough setup hhost h
  · cases h

end Refused

/-- **Logins tell the failures of their calls apart from those of their streams.** -/
theorem refusesApart_ofLogins (other : Host σ) (login : Nat → σ → Login)
    (fault? : Nat → String → σ → Option String) : (other.ofLogins login fault?).RefusesApart where
  write c text world reason := by
    change ((login c world).write text (fault? c text world)).failure? ≠ _
    rw [Login.failure_write]
    split_ifs
    · cases fault? c text world <;> simp
    · simp
  flush c world reason := (Option.some_ne_none _).symm

/-- The scripted host tells the failures of its calls apart from those of its streams. -/
theorem refusesApart_scripted : scripted.RefusesApart where
  write c text world reason := by
    change (world.answerWrite c text).failure ≠ _
    rw [HostScript.answerWrite]
    dsimp only
    split
    · split <;> simp
    · simp
  flush c world reason := by
    change (world.answerFlush c).failure ≠ _
    rw [HostScript.answerFlush]
    split <;> simp

/-! ## The main statement -/

/-- A failure that comes in through the connection that is held is noted and shown. -/
theorem Open.deliver_broken {s : Session σ} {c : Nat} (h : Open s c) (width : Nat)
    (cause : Failure) :
    (s.deliver width ⟨c, .broken cause⟩).trace =
      s.trace ++ [.broke cause, .shown (.line cause.message)] := by
  rw [deliver, (h.current c).mpr rfl]
  dsimp only [accept, fail]
  rw [if_pos rfl]
  rfl

section Dead

variable {host : Host σ} {setup : Setup} {s : Session σ}

/-- Once the stream has failed, and until the session disconnects, every send is refused with the
latest failure and leaves the session as it is. -/
theorem Aware.send_dead (h : Aware s) (hsettled : Settled s) {later : List (Step σ)}
    (hsome : s.channel.isSome = true) (hfailed : streamFailures s.trace ≠ [])
    (hlater : .disconnect ∉ later) :
    ∃ latest, (streamFailures (s.run host setup later).trace).getLast? = some latest ∧
      ∀ text, (s.run host setup later).send host setup text =
        (.failed (.streamClosed latest.message), s.run host setup later) := by
  obtain ⟨c, hc⟩ := Option.isSome_iff_exists.mp hsome
  have hremembers := (hsettled.open_of_channel hc).remembers_run host setup hlater
  have hlater' : Settled (s.run host setup later) := settled_run host setup hsettled later
  have hopen := hlater'.open_of_channel (hremembers.channel_eq.trans hc)
  -- what was known of the stream is still known, as no connection has been asked for since
  have hknows := (h.knows c hc).remembers hremembers
  obtain ⟨acts, htrace, hnone, -⟩ := hremembers.follows
  have hstill : streamFailures (s.run host setup later).trace ≠ [] := by
    rw [htrace, streamFailures_append _ hnone]
    exact List.append_ne_nil_of_left_ne_nil hfailed _
  have hlast := List.getLast?_eq_getLast_of_ne_nil hstill
  refine ⟨_, hlast, fun text => hopen.send_of_failed host setup ?_ text⟩
  rw [hknows.reason, hlast]
  rfl

/-- The reason for which a send is refused for its stream is the latest failure, and the console has
been told of it. -/
theorem Aware.reason_told (h : Aware s) (hsettled : Settled s) (hhost : host.RefusesApart)
    {text reason : String}
    (hrefused : (s.send host setup text).1 = .failed (.streamClosed reason)) :
    ∃ latest, (streamFailures (s.send host setup text).2.trace).getLast? = some latest ∧
      latest.message = reason ∧
      [.broke latest, .shown (.line reason)] <:+: (s.send host setup text).2.trace := by
  obtain ⟨hsame, hsome, hreason⟩ := reason_of_send setup hhost hrefused
  obtain ⟨c, hc⟩ := Option.isSome_iff_exists.mp hsome
  have hknows := (h.step host setup hsettled (.send text)).knows c (hsame.trans hc)
  obtain ⟨latest, hlast, hmessage⟩ :=
    Option.map_eq_some_iff.mp (hknows.reason.symm.trans hreason)
  refine ⟨latest, hlast, hmessage, ?_⟩
  rw [← hmessage]
  exact hknows.reported latest (mem_of_mem_streamFailures (List.mem_of_getLast? hlast))

end Dead

/-- **A dead stream stays dead.**  After every run of a new session, whatever its host does, a
failure that comes in through the connection that is held is the latest one of its stream.  Once
the stream has failed, and until the session disconnects, every send is refused with the latest
failure and leaves the session as it is, with its world and its trace, so that nothing is written:
whatever data, prompts and failures come in, and whatever else is done with the session.  Whenever
a send is refused for its stream, the reason is the latest failure, and the console has been told of
it, if the host tells its other refusals apart, as it does when its connections are logins
(`refusesApart_ofLogins`). -/
theorem dead_stream_run (host : Host σ) (setup : Setup) (world : σ) (steps : List (Step σ)) :
    let s := run host setup { world } steps
    (∀ c cause, s.channel = some c →
      streamFailures (s.deliver setup.width ⟨c, .broken cause⟩).trace =
        streamFailures s.trace ++ [cause]) ∧
    (∀ later, s.channel.isSome = true → streamFailures s.trace ≠ [] → .disconnect ∉ later →
      ∃ latest, (streamFailures (s.run host setup later).trace).getLast? = some latest ∧
        ∀ text, (s.run host setup later).send host setup text =
          (.failed (.streamClosed latest.message), s.run host setup later)) ∧
    (host.RefusesApart → ∀ text reason,
      (s.send host setup text).1 = .failed (.streamClosed reason) →
      ∃ latest, (streamFailures (s.send host setup text).2.trace).getLast? = some latest ∧
        latest.message = reason ∧
        [.broke latest, .shown (.line reason)] <:+: (s.send host setup text).2.trace) := by
  intro s
  have hsettled : Settled s := settled_run host setup (.inl (shut_new world)) steps
  have haware : Aware s := aware_run host setup (.new world) (.inl (shut_new world)) steps
  refine ⟨?_, ?_, ?_⟩
  · intro c cause hc
    rw [(hsettled.open_of_channel hc).deliver_broken,
      streamFailures_append _ (by simp [AsksForNone])]
    rfl
  · exact fun later hsome hfailed hlater => haware.send_dead hsettled hsome hfailed hlater
  · exact fun hhost text reason hrefused => haware.reason_told hsettled hhost hrefused

/-- The stream of a scripted session fails, a prompt comes in, it fails again and fixed-row mode
begins: a line is refused with the second failure, and one sent before it with the first, which the
console has been told of. -/
theorem dead_stream_run_twice :
    let steps : List (Step HostScript) :=
      [.connect scriptedEndpoint, .deliver ⟨0, .broken (.streamClosed "reset")⟩]
    let later : List (Step HostScript) :=
      [.deliver ⟨0, .data "deploy@box:~$ ".toUTF8.toList⟩,
        .deliver ⟨0, .broken (.streamClosed "gone")⟩, .enterRedraw none]
    let s := run scripted scriptedSetup { world := {} } steps
    let t := s.run scripted scriptedSetup later
    s.channel = some 0 ∧ streamFailures s.trace = [.streamClosed "reset"] ∧
      .disconnect ∉ later ∧ scripted.RefusesApart ∧
      t.send scripted scriptedSetup "id" =
        (.failed (.streamClosed "Remote stream closed: gone"), t) ∧
      (s.send scripted scriptedSetup "id").1 =
        .failed (.streamClosed "Remote stream closed: reset") ∧
      .shown (.line "Remote stream closed: reset") ∈
        (s.send scripted scriptedSetup "id").2.trace := by
  intro steps later s t
  obtain ⟨-, hdead, htold⟩ := dead_stream_run scripted scriptedSetup {} steps
  have hchannel : s.channel = some 0 := by decide +kernel
  have hfailed : streamFailures s.trace = [.streamClosed "reset"] := by decide +kernel
  have hlater : .disconnect ∉ later := by simp [later]
  obtain ⟨latest, hlatest, hsend⟩ := hdead later (Option.isSome_iff_exists.mpr ⟨0, hchannel⟩)
    (hfailed.trans_ne (List.cons_ne_nil _ _)) hlater
  have hlast : (streamFailures t.trace).getLast? = some (.streamClosed "gone") := by
    decide +kernel
  obtain rfl := Option.some.inj (hlast.symm.trans hlatest)
  have hrefused : (s.send scripted scriptedSetup "id").1 =
      .failed (.streamClosed "Remote stream closed: reset") := by decide +kernel
  obtain ⟨first, -, -, hreported⟩ := htold refusesApart_scripted "id" _ hrefused
  refine ⟨hchannel, hfailed, hlater, refusesApart_scripted, hsend "id", hrefused, ?_⟩
  exact hreported.subset (List.mem_cons_of_mem _ List.mem_cons_self)

end Session

end ScriptedShell.Remote
