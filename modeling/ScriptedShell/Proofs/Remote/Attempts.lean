/-
# Attempts to connect

Connecting makes one attempt after the other until one finds a prompt.  What an attempt comes to
(`Session.outcome`) is read off what has been heard in it whenever its wait looks, and nothing else:
neither output nor failures nor lateness of earlier attempts count.  `connect_attempts` says how
many attempts are made, what each of them does, what the console is told between them, and what the
session is left with.
-/
import Mathlib
import ScriptedShell.Proofs.Remote.Failures
import ScriptedShell.Proofs.Remote.Stale
import ScriptedShell.Proofs.Remote.Talking

namespace ScriptedShell.Remote

open Inbox Text

/-! ## Outcomes -/

/-- What an attempt to connect comes to. -/
inductive AttemptOutcome where
  /-- The host does not grant the connection. -/
  | refused
  /-- A prompt is heard. -/
  | prompted
  /-- The stream fails before a prompt is heard. -/
  | broken
  /-- Neither happens before the attempt gives up. -/
  | silent
  deriving Repr, DecidableEq

/-- What an attempt has come to when its wait looks, by what has been heard in it; a prompt counts
for more than a failure that comes with it. -/
def AttemptOutcome.ofHeard? (acts : List Activity) : Option AttemptOutcome :=
  if linesHeard .prompt acts ≠ [] then some .prompted
  else if failures acts ≠ [] then some .broken
  else none

/-- The activities of an attempt to open a connection.  The connection is asked for, and granted
unless it is refused.  What is heard until the wait is over tells the outcome; then, if no prompt is
among it, more may come in before the connection is closed.  All else is talk. -/
inductive IsRound (connection : Nat) (endpoint : Endpoint) (timeout : Duration) :
    AttemptOutcome → List Activity → Prop
  | refused {x : List Activity} : (∀ a ∈ x, IsTalk a) →
      IsRound connection endpoint timeout .refused (.opening connection endpoint timeout :: x)
  | prompted {x y : List Activity} : (∀ a ∈ x, IsTalk a) → (∀ a ∈ y, IsTalk a) →
      linesHeard .prompt (x ++ .opened connection :: y) ≠ [] →
      IsRound connection endpoint timeout .prompted
        (.opening connection endpoint timeout :: (x ++ .opened connection :: y))
  | broken {x y late last : List Activity} : (∀ a ∈ x, IsTalk a) → (∀ a ∈ y, IsTalk a) →
      (∀ a ∈ late, IsTalk a) → (∀ a ∈ last, IsTalk a) →
      linesHeard .prompt (x ++ .opened connection :: y) = [] →
      failures (x ++ .opened connection :: y) ≠ [] →
      IsRound connection endpoint timeout .broken
        (.opening connection endpoint timeout ::
          (x ++ .opened connection :: y ++ (late ++ .closed connection :: last)))
  | silent {x y late last : List Activity} : (∀ a ∈ x, IsTalk a) → (∀ a ∈ y, IsTalk a) →
      (∀ a ∈ late, IsTalk a) → (∀ a ∈ last, IsTalk a) →
      linesHeard .prompt (x ++ .opened connection :: y) = [] →
      failures (x ++ .opened connection :: y) = [] →
      IsRound connection endpoint timeout .silent
        (.opening connection endpoint timeout ::
          (x ++ .opened connection :: y ++ (late ++ .closed connection :: last)))

/-- The connection that an activity asks for, if it asks for one. -/
def opening? : Activity → Option Nat
  | .opening connection .. => some connection
  | _ => none

/-- Talk asks for no connection. -/
theorem opening?_of_isTalk {acts : List Activity} (h : ∀ a ∈ acts, IsTalk a) :
    acts.filterMap opening? = [] := by
  rw [List.filterMap_eq_nil_iff]
  intro a ha
  cases a with
  | opening connection endpoint timeout => exact absurd (h _ ha) id
  | _ => rfl

/-- One connection is asked for in an attempt. -/
theorem IsRound.openings {connection : Nat} {endpoint : Endpoint} {timeout : Duration}
    {o : AttemptOutcome} {acts : List Activity} (h : IsRound connection endpoint timeout o acts) :
    acts.filterMap opening? = [connection] := by
  cases h with
  | refused hx => simp only [List.filterMap_cons, opening?, opening?_of_isTalk hx]
  | prompted hx hy _ =>
    simp only [List.filterMap_cons, List.filterMap_append, opening?, opening?_of_isTalk hx,
      opening?_of_isTalk hy, List.append_nil]
  | broken hx hy hlate hlast _ _ =>
    simp only [List.filterMap_cons, List.filterMap_append, opening?, opening?_of_isTalk hx,
      opening?_of_isTalk hy, opening?_of_isTalk hlate, opening?_of_isTalk hlast, List.append_nil]
  | silent hx hy hlate hlast _ _ =>
    simp only [List.filterMap_cons, List.filterMap_append, opening?, opening?_of_isTalk hx,
      opening?_of_isTalk hy, opening?_of_isTalk hlate, opening?_of_isTalk hlast, List.append_nil]

namespace Session

variable {σ : Type}

/-- What has been noted since a session was another one. -/
def since (s t : Session σ) : List Activity := t.trace.drop s.trace.length

/-- What has been noted is what the trace goes on with. -/
theorem since_eq {s t : Session σ} {acts : List Activity} (h : t.trace = s.trace ++ acts) :
    s.since t = acts := by
  rw [since, h, List.drop_left]

/-- The session each time a wait looks, as long as it goes on. -/
def looks (width : Nat) (s : Session σ) : Arrivals σ → List (Session σ)
  | .nothing _ => [s]
  | .batch deliveries world more =>
    s :: looks width ({ s with world }.deliverAll width deliveries) more

/-- What a wait comes to by the first look at which what has been heard since some session decides
it. -/
def verdict (width : Nat) (d s : Session σ) (arrivals : Arrivals σ) : AttemptOutcome :=
  ((s.looks width arrivals).findSome? fun u => AttemptOutcome.ofHeard? (d.since u)).getD .silent

/-- What an attempt to connect comes to, if it is made now: whether the connection is granted, and
what has been heard on it since it was asked for. -/
def outcome (s : Session σ) (host : Host σ) (setup : Setup) (endpoint : Endpoint) :
    AttemptOutcome :=
  if (host.openShell s.handlers.length endpoint setup.settings.connectTimeout
      s.world).failure.isSome then .refused
  else
    let t := (s.answered host setup endpoint).note [.opened s.handlers.length]
    verdict setup.width (s.dialed setup endpoint) t
      (host.await (some setup.settings.connectTimeout) t.world)

/-- How a wait ends that has come to an outcome, with what has been heard by then. -/
inductive WaitEnds (acts : List Activity) (t : Session σ) :
    AttemptOutcome → Waited × Session σ → Prop
  | prompted : linesHeard .prompt acts ≠ [] → WaitEnds acts t .prompted
      (.ready, { t with inbox := { t.inbox with promptSeen := false } })
  | broken (reason : String) : linesHeard .prompt acts = [] → failures acts ≠ [] →
      WaitEnds acts t .broken (.closed reason, t)
  | silent : linesHeard .prompt acts = [] → failures acts = [] →
      WaitEnds acts t .silent (.expired, t)

section Waiting

variable {width : Nat} {s d : Session σ} {acts : List Activity}

/-- What a wait finds when it looks is what has been heard. -/
theorem promptFound_heard (hprompt : d.inbox.promptSeen = false)
    (hreason : d.inbox.streamError = none) (h : Delivers width d acts s) :
    (AttemptOutcome.ofHeard? (d.since s) = none ∧ s.promptFound = none ∧
        linesHeard .prompt acts = [] ∧ failures acts = []) ∨
      ∃ o found, AttemptOutcome.ofHeard? (d.since s) = some o ∧ s.promptFound = some found ∧
        WaitEnds acts s o found := by
  rw [since_eq h.trace_eq, AttemptOutcome.ofHeard?, promptFound, h.arrives.promptSeen_eq,
    h.arrives.streamError_eq_latest, hprompt, hreason]
  by_cases hp : linesHeard .prompt acts = []
  · by_cases hf : failures acts = []
    · simp [hp, hf]
    · have hlast := List.getLast?_eq_getLast_of_ne_nil hf
      exact .inr ⟨.broken, (.closed ((failures acts).getLast hf).message, s), by simp [hp, hf],
        by simp [hp, hlast], .broken _ hp hf⟩
  · exact .inr ⟨_, _, if_pos hp, if_pos (by simpa using hp), .prompted hp⟩

/-- A wait ends as the first look decides at which something has been heard. -/
theorem waitForPrompt_verdict (hprompt : d.inbox.promptSeen = false)
    (hreason : d.inbox.streamError = none) (h : Delivers width d acts s) (arrivals : Arrivals σ) :
    ∃ more t, Delivers width s more t ∧ Talks s t ∧
      WaitEnds (acts ++ more) t (verdict width d s arrivals) (s.waitForPrompt width arrivals) := by
  induction arrivals generalizing s acts with
  | nothing world =>
    rw [verdict, looks, waitForPrompt, List.findSome?_cons]
    rcases promptFound_heard hprompt hreason h with
      ⟨hheard, hfound, hp, hf⟩ | ⟨o, found, hheard, hfound, hends⟩
    · rw [hheard, hfound]
      rw [← List.append_nil acts] at hp hf
      exact ⟨[], _, .none s world, .within s s.inbox world, .silent hp hf⟩
    · rw [hheard, hfound]
      exact ⟨[], s, .none s s.world, .refl s, by rwa [List.append_nil]⟩
  | batch deliveries world rest ih =>
    rw [verdict, looks, waitForPrompt, List.findSome?_cons]
    rcases promptFound_heard hprompt hreason h with
      ⟨hheard, hfound, -⟩ | ⟨o, found, hheard, hfound, hends⟩
    · rw [hheard, hfound]
      -- the next look finds what has been heard by this one and what comes in with the batch
      obtain ⟨x, hx⟩ := delivers_deliverAll width { s with world } deliveries
      have harrived := (Delivers.none s world).trans hx
      have htalk : Talks s ({ s with world }.deliverAll width deliveries) :=
        (Talks.within s s.inbox world).trans (talks_deliverAll width _ deliveries)
      obtain ⟨more, t, hmore, htalks, hends⟩ := ih (h.trans harrived)
      rw [List.append_assoc] at hends
      exact ⟨_, t, harrived.trans hmore, htalk.trans htalks, hends⟩
    · rw [hheard, hfound]
      exact ⟨[], s, .none s s.world, .refl s, by rwa [List.append_nil]⟩

end Waiting

/-! ## One attempt -/

/-- Whether the console is told of output and of failures of the stream in a trace, and of nothing
else. -/
def TellsOutput (acts : List Activity) : Prop := shownEntries acts = acts.filterMap announced?

/-- Traces that tell of output only, one after the other. -/
theorem TellsOutput.append {x y : List Activity} (hx : TellsOutput x) (hy : TellsOutput y) :
    TellsOutput (x ++ y) := by
  rw [TellsOutput, shownEntries_append, hx, hy, List.filterMap_append]

/-- What is true of an attempt to connect that has come to an outcome with some activities. -/
structure Attempted (setup : Setup) (endpoint : Endpoint) (s : Session σ) (o : AttemptOutcome)
    (acts : List Activity) (t : Session σ) : Prop where
  trace_eq : t.trace = s.trace ++ acts
  round : IsRound s.handlers.length endpoint setup.settings.connectTimeout o acts
  told : TellsOutput acts
  inactive : t.inbox.redraw.active = false
  handlers_length : t.handlers.length = s.handlers.length + 1
  holds : o = .prompted → t.channel = some s.handlers.length ∧ t.endpoint = some endpoint ∧
    t.inbox.phase = .idle

section Attempt

variable (host : Host σ) (setup : Setup) {endpoint : Endpoint} {s t u : Session σ}
  {acts more : List Activity}

/-- Deliveries that are talk are talk. -/
theorem Delivers.isTalk {width : Nat} (h : Delivers width s acts t) (htalks : Talks s t) :
    ∀ a ∈ acts, IsTalk a := by
  obtain ⟨acts', htrace, hacts⟩ := htalks.grows
  rwa [List.append_cancel_left (h.trace_eq.symm.trans htrace)]

variable {setup}

/-- Outside fixed-row mode deliveries tell of output only. -/
theorem Delivers.tellsOutput {width : Nat} (h : Delivers width s acts t)
    (hinactive : s.inbox.redraw.active = false) : TellsOutput acts :=
  h.arrives.shownEntries_eq hinactive

/-- What is true of an attempt in which deliveries come in and no connection comes to be held. -/
theorem Attempted.of_delivers {o : AttemptOutcome} (hinactive : s.inbox.redraw.active = false)
    (h : Delivers setup.width (s.dialed setup endpoint) acts t)
    (hround : IsRound s.handlers.length endpoint setup.settings.connectTimeout o
      (.opening s.handlers.length endpoint setup.settings.connectTimeout :: acts))
    (ho : o ≠ .prompted) :
    Attempted setup endpoint s o
      (.opening s.handlers.length endpoint setup.settings.connectTimeout :: acts) t where
  trace_eq := by rw [h.trace_eq, dialed, note, List.append_assoc, List.singleton_append]
  round := hround
  told := h.tellsOutput hinactive
  inactive := h.arrives.active_eq.trans hinactive
  handlers_length := by
    rw [h.handlers_eq]
    exact List.length_append
  holds hprompted := absurd hprompted ho

/-- What is true of an attempt in which a prompt is found and the connection comes to be held. -/
theorem Attempted.of_prompt (hinactive : s.inbox.redraw.active = false)
    (h : Delivers setup.width (s.dialed setup endpoint) acts t)
    (h' : Delivers setup.width { t with inbox := { t.inbox with promptSeen := false } } more u)
    (hround : IsRound s.handlers.length endpoint setup.settings.connectTimeout .prompted
      (.opening s.handlers.length endpoint setup.settings.connectTimeout :: (acts ++ more))) :
    Attempted setup endpoint s .prompted
      (.opening s.handlers.length endpoint setup.settings.connectTimeout :: (acts ++ more))
      (u.joined s.handlers.length endpoint) where
  trace_eq := by
    rw [joined, h'.trace_eq, h.trace_eq, dialed, note, List.append_assoc, List.append_assoc,
      List.singleton_append]
  round := hround
  told := (TellsOutput.append (h.tellsOutput hinactive)
    (h'.tellsOutput (h.arrives.active_eq.trans hinactive)) : TellsOutput (acts ++ more))
  inactive := h'.arrives.active_eq.trans (h.arrives.active_eq.trans hinactive)
  handlers_length := by
    rw [joined, h'.handlers_eq, h.handlers_eq]
    exact List.length_append
  holds _ := ⟨rfl, rfl, rfl⟩

variable (setup)

/-- Dropping a connection: what comes in first is talk, then the connection is closed. -/
theorem delivers_dropped (s : Session σ) (connection : Nat) :
    ∃ y z, Delivers setup.width s (y ++ .closed connection :: z)
        ((s.pause host setup .dropping).close host setup connection) ∧
      (∀ a ∈ y, IsTalk a) ∧ ∀ a ∈ z, IsTalk a := by
  obtain ⟨y, hy⟩ := delivers_pause host setup s .dropping
  obtain ⟨z, hz⟩ := delivers_absorb setup.width
    ((s.pause host setup .dropping).note [.closed connection])
    (host.close connection (s.pause host setup .dropping).world)
  have hclosed : Delivers setup.width (s.pause host setup .dropping) [.closed connection]
      ((s.pause host setup .dropping).note [.closed connection]) :=
    .note _ ⟨connection, .inr (.inr rfl)⟩
  exact ⟨y, z, hy.trans (hclosed.trans hz), hy.isTalk (talks_pause host setup s .dropping),
    hz.isTalk (talks_absorb setup.width _ _)⟩

/-- **What an attempt to connect does.**  It succeeds exactly when it is prompted. -/
theorem attempted (endpoint : Endpoint) (hinactive : s.inbox.redraw.active = false) :
    ∃ acts t, s.attempt host setup endpoint =
        (s.outcome host setup endpoint == .prompted, t) ∧
      Attempted setup endpoint s (s.outcome host setup endpoint) acts t := by
  obtain ⟨x, hx⟩ : ∃ x, Delivers setup.width (s.dialed setup endpoint) x
      (s.answered host setup endpoint) := delivers_absorb setup.width _ _
  have hxtalk := hx.isTalk (talks_absorb setup.width (s.dialed setup endpoint)
    (host.openShell s.handlers.length endpoint setup.settings.connectTimeout s.world))
  have hopened := hx.trans (.note (s.answered host setup endpoint) ⟨s.handlers.length, .inl rfl⟩)
  rw [attempt_eq, outcome]
  split_ifs with hfailure
  · exact ⟨_, _, rfl, .of_delivers hinactive hx (.refused hxtalk) nofun⟩
  · dsimp only
    generalize (s.answered host setup endpoint).note [.opened s.handlers.length] = g at hopened ⊢
    generalize host.await (some setup.settings.connectTimeout) g.world = arrivals
    obtain ⟨y, t, hy, htalks, hends⟩ := waitForPrompt_verdict rfl rfl hopened arrivals
    have hytalk := hy.isTalk htalks
    have hfirst := hopened.trans hy
    generalize verdict setup.width (s.dialed setup endpoint) g arrivals = o at hends ⊢
    generalize g.waitForPrompt setup.width arrivals = ended at hends ⊢
    have hopening : x ++ [.opened s.handlers.length] ++ y = x ++ .opened s.handlers.length :: y :=
      (List.append_cons x _ y).symm
    rw [hopening] at hfirst hends
    cases hends with
    | prompted hheard =>
      obtain ⟨z, hz⟩ := delivers_pause host setup
        { t with inbox := { t.inbox with promptSeen := false } } .settling
      refine ⟨_, _, rfl, .of_prompt hinactive hfirst hz ?_⟩
      rw [List.append_assoc, List.cons_append]
      refine .prompted hxtalk (List.forall_mem_append.mpr
        ⟨hytalk, hz.isTalk (talks_pause host setup _ .settling)⟩) ?_
      rw [← List.cons_append, ← List.append_assoc, linesHeard_append]
      exact List.append_ne_nil_of_left_ne_nil hheard _
    | broken reason hp hf =>
      obtain ⟨late, last, hz, hlate, hlast⟩ := delivers_dropped host setup t s.handlers.length
      exact ⟨_, _, rfl, .of_delivers hinactive (hfirst.trans hz)
        (.broken hxtalk hytalk hlate hlast hp hf) nofun⟩
    | silent hp hf =>
      obtain ⟨late, last, hz, hlate, hlast⟩ := delivers_dropped host setup t s.handlers.length
      exact ⟨_, _, rfl, .of_delivers hinactive (hfirst.trans hz)
        (.silent hxtalk hytalk hlate hlast hp hf) nofun⟩

end Attempt

/-! ## All attempts -/

/-- What the console is told before an attempt, by the number of attempts before it. -/
def announcement (n : Nat) : List Activity :=
  if n = 0 then [] else [.shown (.line ("Retry " ++ toString n ++ "..."))]

section Attempts

variable (host : Host σ) (setup : Setup) (endpoint : Endpoint) (s : Session σ)

/-- The session after as many attempts to connect as are given, if none before the last of them
has succeeded. -/
def tried : Nat → Session σ
  | 0 => s
  | n + 1 => (((tried n).announceAttempt host setup (n + 1)).attempt host setup endpoint).2

/-- The session in which an attempt is made, by the number of attempts before it. -/
def announced (n : Nat) : Session σ :=
  (s.tried host setup endpoint n).announceAttempt host setup (n + 1)

/-- What an attempt comes to, by the number of attempts before it. -/
def outcomeAt (n : Nat) : AttemptOutcome :=
  (s.announced host setup endpoint n).outcome host setup endpoint

/-- The activities between the announcement of an attempt and the attempt. -/
def lull (n : Nat) : List Activity :=
  ((s.tried host setup endpoint n).note (announcement n)).since (s.announced host setup endpoint n)

/-- The activities of an attempt, by the number of attempts before it. -/
def round (n : Nat) : List Activity :=
  (s.announced host setup endpoint n).since (s.tried host setup endpoint (n + 1))

variable {s}

/-- Nothing comes in before the first attempt, and only talk before the others. -/
theorem delivers_lull (n : Nat) :
    Delivers setup.width ((s.tried host setup endpoint n).note (announcement n))
        (s.lull host setup endpoint n) (s.announced host setup endpoint n) ∧
      (n = 0 → s.lull host setup endpoint n = []) ∧
      ∀ a ∈ s.lull host setup endpoint n, IsTalk a := by
  obtain ⟨acts, hacts, hfirst, htalk⟩ : ∃ acts,
      Delivers setup.width ((s.tried host setup endpoint n).note (announcement n)) acts
        (s.announced host setup endpoint n) ∧ (n = 0 → acts = []) ∧ ∀ a ∈ acts, IsTalk a := by
    rw [announced, announceAttempt]
    cases n with
    | zero =>
      have hnoted : (s.tried host setup endpoint 0).note (announcement 0) =
          s.tried host setup endpoint 0 := by
        rw [announcement, if_pos rfl, note, List.append_nil]
      rw [if_pos rfl, hnoted]
      exact ⟨[], .none _ _, fun _ => rfl, fun _ ha => absurd ha List.not_mem_nil⟩
    | succ n =>
      rw [if_neg (by omega), announcement, if_neg n.succ_ne_zero]
      obtain ⟨x, hx⟩ := delivers_pause host setup
        ((s.tried host setup endpoint (n + 1)).say ("Retry " ++ toString (n + 1) ++ "..."))
        .retrying
      exact ⟨x, hx, fun hzero => absurd hzero n.succ_ne_zero,
        hx.isTalk (talks_pause host setup _ .retrying)⟩
  rw [lull, since_eq hacts.trace_eq]
  exact ⟨hacts, hfirst, htalk⟩

/-- Attempts do not begin fixed-row mode. -/
theorem inactive_announced {n : Nat}
    (h : (s.tried host setup endpoint n).inbox.redraw.active = false) :
    (s.announced host setup endpoint n).inbox.redraw.active = false :=
  (delivers_lull host setup endpoint n).1.arrives.active_eq.trans h

/-- Attempts do not begin fixed-row mode. -/
theorem inactive_tried (hinactive : s.inbox.redraw.active = false) (n : Nat) :
    (s.tried host setup endpoint n).inbox.redraw.active = false := by
  induction n with
  | zero => exact hinactive
  | succ n ih =>
    obtain ⟨acts, t, heq, h⟩ :=
      attempted host setup endpoint (inactive_announced host setup endpoint ih)
    rw [tried, ← announced, heq]
    exact h.inactive

/-- What each attempt does. -/
theorem attempted_round (hinactive : s.inbox.redraw.active = false) (n : Nat) :
    ((s.announced host setup endpoint n).attempt host setup endpoint).1 =
        (s.outcomeAt host setup endpoint n == .prompted) ∧
      Attempted setup endpoint (s.announced host setup endpoint n)
        (s.outcomeAt host setup endpoint n) (s.round host setup endpoint n)
        (s.tried host setup endpoint (n + 1)) := by
  obtain ⟨acts, t, heq, h⟩ := attempted host setup endpoint
    (inactive_announced host setup endpoint (inactive_tried host setup endpoint hinactive n))
  obtain rfl : s.tried host setup endpoint (n + 1) = t := by rw [tried, ← announced, heq]
  rw [heq, round, since_eq h.trace_eq]
  exact ⟨rfl, h⟩

/-- Announcing an attempt asks for no connection. -/
theorem handlers_announced (n : Nat) :
    (s.announced host setup endpoint n).handlers = (s.tried host setup endpoint n).handlers :=
  (delivers_lull host setup endpoint n).1.handlers_eq

/-- Each attempt has one handler. -/
theorem handlers_tried (hinactive : s.inbox.redraw.active = false) (n : Nat) :
    (s.tried host setup endpoint n).handlers.length = s.handlers.length + n := by
  induction n with
  | zero => rfl
  | succ n ih =>
    rw [(attempted_round host setup endpoint hinactive n).2.handlers_length, handlers_announced, ih]
    rfl

/-- The trace goes on with one attempt after the other, each announced. -/
theorem trace_tried (hinactive : s.inbox.redraw.active = false) (n : Nat) :
    (s.tried host setup endpoint n).trace = s.trace ++
      (List.range n).flatMap fun k =>
        announcement k ++ s.lull host setup endpoint k ++ s.round host setup endpoint k := by
  induction n with
  | zero => exact (List.append_nil _).symm
  | succ n ih =>
    rw [(attempted_round host setup endpoint hinactive n).2.trace_eq,
      (delivers_lull host setup endpoint n).1.trace_eq, note, ih, List.range_succ,
      List.flatMap_append, List.flatMap_singleton]
    simp only [List.append_assoc]

/-- Attempts of which none has succeeded are part of a search. -/
theorem Searching.tried (h : Searching s) (hinactive : s.inbox.redraw.active = false) {n : Nat}
    (hfailed : ∀ k < n, s.outcomeAt host setup endpoint k ≠ .prompted) :
    Searching (s.tried host setup endpoint n) := by
  induction n with
  | zero => exact h
  | succ n ih =>
    have hbefore := ih fun k hk => hfailed k (Nat.lt_succ_of_lt hk)
    have hnoted : Searching ((s.tried host setup endpoint n).note (announcement n)) :=
      ⟨hbefore.channel_eq, hbefore.endpoint_eq, hbefore.bounded⟩
    have hannounced : Searching (s.announced host setup endpoint n) :=
      hnoted.keeps (.of_delivers (delivers_lull host setup endpoint n).1)
    have hresult := (attempted_round host setup endpoint hinactive n).1
    -- an attempt that ends the search is prompted, and none of these is
    rcases hannounced.attempt host setup endpoint with ⟨t, heq, -⟩ | ⟨t, heq, hsearch⟩
    · rw [heq] at hresult
      exact absurd (beq_iff_eq.mp hresult.symm) (hfailed n (Nat.lt_succ_self n))
    · rw [Session.tried, ← announced, heq]
      exact hsearch

/-- **Attempts are made until one of them is prompted**, or there are none left. -/
theorem attempts_eq (hinactive : s.inbox.redraw.active = false) (left n : Nat) :
    let failed := ((List.range' n left).map (s.outcomeAt host setup endpoint)).idxOf .prompted
    attempts host setup endpoint left (n + 1) (s.tried host setup endpoint n) =
      (decide (failed < left), s.tried host setup endpoint (n + min (failed + 1) left)) := by
  induction left generalizing n with
  | zero => rfl
  | succ left ih =>
    have hresult := (attempted_round host setup endpoint hinactive n).1
    have hnext : ((s.announced host setup endpoint n).attempt host setup endpoint).2 =
        s.tried host setup endpoint (n + 1) := rfl
    intro failed
    rw [attempts, ← announced]
    generalize (s.announced host setup endpoint n).attempt host setup endpoint = result
      at hresult hnext ⊢
    obtain ⟨ready, t⟩ := result
    subst hresult hnext
    have hcons : failed = (s.outcomeAt host setup endpoint n ::
        (List.range' (n + 1) left).map (s.outcomeAt host setup endpoint)).idxOf .prompted := rfl
    -- this attempt is the last, or what is said of those after it counts one attempt more
    by_cases hprompted : s.outcomeAt host setup endpoint n = .prompted
    · rw [hcons, List.idxOf_cons_eq _ hprompted, hprompted]
      have hone : min (0 + 1) (left + 1) = 1 := by omega
      rw [hone, decide_eq_true (Nat.succ_pos left)]
      rfl
    · rw [hcons, List.idxOf_cons_ne _ hprompted, beq_eq_false_iff_ne.mpr hprompted]
      dsimp only
      rw [ih (n + 1)]
      generalize ((List.range' (n + 1) left).map (s.outcomeAt host setup endpoint)).idxOf
        .prompted = later
      have hmade : n + 1 + min (later + 1) left = n + min (later + 1 + 1) (left + 1) := by omega
      simp only [hmade, Nat.succ_lt_succ_iff, Nat.succ_eq_add_one]

variable (s)

/-- The number of attempts before the first one that is prompted, or the limit if none is. -/
def failedAttempts (limit : Nat) : Nat :=
  ((List.range limit).map (s.outcomeAt host setup endpoint)).idxOf .prompted

/-- The attempt after those that fail is prompted. -/
theorem outcomeAt_failedAttempts {limit : Nat}
    (h : s.failedAttempts host setup endpoint limit < limit) :
    s.outcomeAt host setup endpoint (s.failedAttempts host setup endpoint limit) = .prompted := by
  have hlt : ((List.range limit).map (s.outcomeAt host setup endpoint)).idxOf .prompted <
      ((List.range limit).map (s.outcomeAt host setup endpoint)).length := by
    rwa [List.length_map, List.length_range]
  have hfirst := List.getElem_idxOf hlt
  rwa [List.getElem_map, List.getElem_range] at hfirst

/-- The attempts that fail are not prompted. -/
theorem outcomeAt_ne_prompted {limit k : Nat}
    (h : k < s.failedAttempts host setup endpoint limit) :
    s.outcomeAt host setup endpoint k ≠ .prompted := by
  have hnot := List.not_of_lt_findIdx h
  simpa only [List.getElem_map, List.getElem_range, beq_eq_false_iff_ne] using hnot

variable {s}

/-- The attempts that are made ask for one connection each. -/
theorem openings_rounds (hinactive : s.inbox.redraw.active = false) (made : Nat) :
    ((List.range made).flatMap fun n => announcement n ++ s.lull host setup endpoint n ++
      s.round host setup endpoint n).filterMap opening? =
        List.range' s.handlers.length made := by
  have hround : ∀ n, (announcement n ++ s.lull host setup endpoint n ++
      s.round host setup endpoint n).filterMap opening? = [s.handlers.length + n] := by
    intro n
    have hannouncement : (announcement n).filterMap opening? = [] := by
      rw [announcement]
      split_ifs <;> rfl
    rw [List.filterMap_append, List.filterMap_append, hannouncement,
      opening?_of_isTalk (delivers_lull host setup endpoint n).2.2, List.nil_append, List.nil_append,
      (attempted_round host setup endpoint hinactive n).2.round.openings, handlers_announced,
      handlers_tried host setup endpoint hinactive n]
  rw [List.filterMap_flatMap, List.range'_eq_map_range, List.map_eq_flatMap]
  simp only [hround]

/-! ## Connecting a session without a connection -/

section Connect

variable {host setup endpoint} {limit : Nat}

/-- A session without a connection is not in fixed-row mode. -/
theorem Shut.inactive (h : Shut s) : s.inbox.redraw.active = false := by rw [h.inbox_eq]

/-- Connecting makes attempts until one is prompted or there are none left. -/
theorem Shut.connect_eq (h : Shut s) (hlimit : limit = max setup.settings.connectAttempts 1) :
    s.connect host setup endpoint =
      if s.failedAttempts host setup endpoint limit < limit then
        (none, (s.tried host setup endpoint
          (min (s.failedAttempts host setup endpoint limit + 1) limit)).say
            "Ssh connection success")
      else
        (some (.retriesExhausted endpoint.host limit),
          (s.tried host setup endpoint
            (min (s.failedAttempts host setup endpoint limit + 1) limit)).reset.say
              ("Retry more than " ++ toString limit ++ " times")) := by
  have hattempts := attempts_eq host setup endpoint h.inactive limit 0
  rw [← List.range_eq_range', Nat.zero_add] at hattempts
  dsimp only at hattempts
  rw [Session.tried, ← failedAttempts, Nat.zero_add] at hattempts
  rw [connect, h.endpoint_eq]
  dsimp only
  rw [← hlimit, hattempts]
  split_ifs with hreached
  · rw [decide_eq_true hreached]
  · rw [decide_eq_false hreached]

/-- What connecting notes: one attempt after the other, and how they end. -/
theorem Shut.trace_connect (h : Shut s) (hlimit : limit = max setup.settings.connectAttempts 1) :
    (s.connect host setup endpoint).2.trace = s.trace ++
      ((List.range (min (s.failedAttempts host setup endpoint limit + 1) limit)).flatMap fun n =>
        announcement n ++ s.lull host setup endpoint n ++ s.round host setup endpoint n) ++
      [.shown (.line (if s.failedAttempts host setup endpoint limit < limit
        then "Ssh connection success"
        else "Retry more than " ++ toString limit ++ " times"))] := by
  rw [h.connect_eq hlimit, ← trace_tried host setup endpoint h.inactive]
  split_ifs <;> rfl

/-- Connecting succeeds when an attempt is prompted, and its connection comes to be held. -/
theorem Shut.connect_prompted (h : Shut s)
    (hlimit : limit = max setup.settings.connectAttempts 1)
    (hreached : s.failedAttempts host setup endpoint limit < limit) :
    (s.connect host setup endpoint).1 = none ∧
      (s.connect host setup endpoint).2.channel =
        some (s.handlers.length + s.failedAttempts host setup endpoint limit) ∧
      (s.connect host setup endpoint).2.endpoint = some endpoint ∧
      (s.connect host setup endpoint).2.inbox.phase = .idle := by
  have hheld := (attempted_round host setup endpoint h.inactive _).2.holds
    (s.outcomeAt_failedAttempts host setup endpoint hreached)
  rw [handlers_announced, handlers_tried host setup endpoint h.inactive] at hheld
  rw [h.connect_eq hlimit, if_pos hreached, Nat.min_eq_left hreached]
  exact ⟨rfl, hheld⟩

/-- Connecting fails when no attempt is prompted, and the session is left without a connection. -/
theorem Shut.connect_exhausted (h : Shut s)
    (hlimit : limit = max setup.settings.connectAttempts 1)
    (hnone : limit ≤ s.failedAttempts host setup endpoint limit) :
    (s.connect host setup endpoint).1 = some (.retriesExhausted endpoint.host limit) ∧
      Shut (s.connect host setup endpoint).2 := by
  have hsearch := h.searching.tried host setup endpoint h.inactive (n := limit)
    fun k hk => s.outcomeAt_ne_prompted host setup endpoint (hk.trans_le hnone)
  rw [h.connect_eq hlimit, if_neg (Nat.not_lt.mpr hnone),
    Nat.min_eq_right (Nat.le_succ_of_le hnone)]
  exact ⟨rfl, hsearch.reset.say _⟩

end Connect

end Attempts

/-! ## The main statement -/

/-- **What connecting does.**  After every run of a new session, whatever its host does, connecting
a session that is connected is refused and changes nothing.  Connecting one that is not makes one
attempt after the other until one is prompted or the settings allow no more.  Each attempt asks for
one connection and closes it if it is granted and not prompted, and tells the console of output and
failures only; before each but the first the console is told how many retries this makes, and what
comes in then is output and failures of the attempt before.  An attempt in which a prompt and a
failure of the stream have both come before the same look is prompted, in whichever order they came:
the wait looks for a prompt first.  Connecting succeeds exactly when an attempt that the settings
allow is prompted, and then the session holds the connection of that attempt; otherwise it is left
without a connection and listens to none. -/
theorem connect_attempts (host : Host σ) (setup : Setup) (world : σ) (steps : List (Step σ))
    (endpoint : Endpoint) :
    let s := run host setup { world } steps
    let limit := max setup.settings.connectAttempts 1
    let failed := s.failedAttempts host setup endpoint limit
    let made := min (failed + 1) limit
    let result := (s.connect host setup endpoint).1
    let t := (s.connect host setup endpoint).2
    (∀ current, s.endpoint = some current →
      s.connect host setup endpoint = (some (.alreadyConnected current.host), s)) ∧
    (s.channel = none →
      (∃ rounds, t.trace = s.trace ++ rounds ++ [.shown (.line (if failed < limit
            then "Ssh connection success"
            else "Retry more than " ++ toString limit ++ " times"))] ∧
          rounds = (List.range made).flatMap (fun n => announcement n ++
            s.lull host setup endpoint n ++ s.round host setup endpoint n) ∧
          rounds.filterMap opening? = List.range' s.handlers.length made) ∧
      (∀ n < made,
        IsRound (s.handlers.length + n) endpoint setup.settings.connectTimeout
          (s.outcomeAt host setup endpoint n) (s.round host setup endpoint n) ∧
        TellsOutput (s.round host setup endpoint n) ∧
        (n = 0 → s.lull host setup endpoint n = []) ∧
        (∀ a ∈ s.lull host setup endpoint n, IsTalk a) ∧
        TellsOutput (s.lull host setup endpoint n)) ∧
      (result = none ↔ failed < limit) ∧
      (failed < limit → t.channel = some (s.handlers.length + failed) ∧
        t.endpoint = some endpoint ∧ t.inbox.phase = .idle) ∧
      (limit ≤ failed → result = some (.retriesExhausted endpoint.host limit) ∧ Shut t ∧
        ∀ connection, ¬ t.Listens connection)) := by
  intro s limit failed made result t
  have hsettled : Settled s := settled_run host setup (.inl (shut_new world)) steps
  refine ⟨?_, ?_⟩
  · intro current hcurrent
    rw [connect, hcurrent]
  · intro hchannel
    have hshut : Shut s := hsettled.shut_of_channel hchannel
    refine ⟨⟨_, hshut.trace_connect rfl, rfl,
      openings_rounds host setup endpoint hshut.inactive made⟩, ?_, ?_, ?_, ?_⟩
    · intro n _
      have hround := (attempted_round host setup endpoint hshut.inactive n).2
      obtain ⟨hlull, hfirst, htalk⟩ := delivers_lull (s := s) host setup endpoint n
      refine ⟨?_, hround.told, hfirst, htalk,
        hlull.tellsOutput (inactive_tried host setup endpoint hshut.inactive n)⟩
      rw [← handlers_tried host setup endpoint hshut.inactive n, ← handlers_announced]
      exact hround.round
    · rcases lt_or_ge failed limit with hreached | hnone
      · exact iff_of_true (hshut.connect_prompted rfl hreached).1 hreached
      · have hfailed : result = some _ := (hshut.connect_exhausted rfl hnone).1
        rw [hfailed]
        exact iff_of_false (Option.some_ne_none _) (Nat.not_lt.mpr hnone)
    · exact fun hreached => (hshut.connect_prompted rfl hreached).2
    · intro hnone
      obtain ⟨hfailed, hleft⟩ := hshut.connect_exhausted rfl hnone
      exact ⟨hfailed, hleft, hleft.not_listens⟩

/-- A host that refuses its first connection, breaks the stream of the second, and shows its prompt
on the third. -/
def hesitant : HostScript where
  openings := [{ refusal := some "no route" }, { play := ⟨⟨[], some "reset"⟩, []⟩ },
    { play := HostScript.playText ["deploy@box:~$ "] }]

/-- Connecting to a host that hesitates takes three attempts, and the console is told of the failure
and of the two retries. -/
theorem connect_attempts_hesitant :
    let s : Session HostScript := { world := hesitant }
    let t := (s.connect scripted scriptedSetup scriptedEndpoint).2
    s.channel = none ∧
      (List.range 3).map (s.outcomeAt scripted scriptedSetup scriptedEndpoint) =
        [.refused, .broken, .prompted] ∧
      (s.connect scripted scriptedSetup scriptedEndpoint).1 = none ∧ t.channel = some 2 ∧
      t.trace.filterMap opening? = [0, 1, 2] ∧
      shownEntries t.trace = [.line "Retry 1...", .line "Remote stream closed: reset",
        .line "Retry 2...", .line "Ssh connection success"] := by
  have hlimit : max scriptedSetup.settings.connectAttempts 1 = 3 := by decide
  have hrun : run scripted scriptedSetup { world := hesitant } [] = { world := hesitant } := rfl
  obtain ⟨-, -, hresult, hheld, -⟩ :=
    (connect_attempts scripted scriptedSetup hesitant [] scriptedEndpoint).2 rfl
  have houtcomes : (List.range 3).map (outcomeAt scripted scriptedSetup scriptedEndpoint
      { world := hesitant }) = [.refused, .broken, .prompted] := by decide +kernel
  have hfailed : failedAttempts scripted scriptedSetup scriptedEndpoint { world := hesitant } 3 =
      2 := by
    rw [failedAttempts, houtcomes]
    rfl
  rw [hlimit, hrun, hfailed] at hresult hheld
  have hreached : 2 < 3 := by decide
  exact ⟨rfl, houtcomes, hresult.mpr hreached, (hheld hreached).1, by decide +kernel,
    by decide +kernel⟩

end Session

end ScriptedShell.Remote
