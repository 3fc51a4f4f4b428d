/-
# The life of a session

A session lives from call to call, and deliveries come in between.  At all these moments it either
holds nothing and knows nothing (`Shut`), or it holds the connection that it asked for last, whose
handler is the only one that is listened to, and knows where the remote shell is from the last
prompt on that connection (`Open`).  Every step keeps to this (`Settled.step`), and so does every
run (`settled_run`).
-/
import Mathlib
import ScriptedShell.Proofs.Remote.SendRun

namespace ScriptedShell.Remote.Session

open Inbox Text

variable {σ : Type}

/-! ## Runs of a session -/

/-- One thing that happens to a session between two moments at which nobody is in a call. -/
inductive Step (σ : Type) where
  | connect (endpoint : Endpoint)
  | send (text : String)
  | enterRedraw (row : Option Nat)
  | exitRedraw
  | disconnect
  /-- A signal comes in through the handler of a connection that was asked for, or of none. -/
  | deliver (d : Delivery)
  /-- The world goes on. -/
  | elapse (world : σ)

/-- The session after a step. -/
def step (host : Host σ) (setup : Setup) (s : Session σ) : Step σ → Session σ
  | .connect endpoint => (s.connect host setup endpoint).2
  | .send text => (s.send host setup text).2
  | .enterRedraw row => (s.enterRedraw host setup row).2
  | .exitRedraw => s.exitRedraw
  | .disconnect => (s.disconnect host setup).2
  | .deliver d => s.deliver setup.width d
  | .elapse world => { s with world }

/-- The session after steps, one after the other. -/
def run (host : Host σ) (setup : Setup) (s : Session σ) (steps : List (Step σ)) : Session σ :=
  steps.foldl (step host setup) s

/-! ## Holding on to a connection -/

/-- Whether no connection is asked for in a trace. -/
def AsksForNone (acts : List Activity) : Prop :=
  ∀ c endpoint timeout, .opening c endpoint timeout ∉ acts

/-- The location that a trace leads to, from a known one. -/
def locationAfter (known : Option String) (acts : List Activity) : Option String :=
  ((linesHeard .prompt acts).getLast?.map promptLocation).or known

/-- The location goes along with the trace. -/
theorem locationAfter_append (known : Option String) (x y : List Activity) :
    locationAfter known (x ++ y) = locationAfter (locationAfter known x) y := by
  rw [locationAfter, locationAfter, locationAfter, linesHeard_append, List.getLast?_append]
  cases (linesHeard .prompt y).getLast? <;> rfl

/-- Whether a session goes on with the connection of another one: it holds the same, listens to
the same handler, is still up, asks for no connection, and follows the prompts. -/
structure Keeps (s t : Session σ) : Prop where
  channel_eq : t.channel = s.channel
  endpoint_eq : t.endpoint = s.endpoint
  handlers_eq : t.handlers = s.handlers
  generation_eq : t.inbox.generation = s.inbox.generation
  phase : t.inbox.phase = s.inbox.phase ∨ t.inbox.phase = .idle ∨ t.inbox.phase = .awaitingPrompt
  follows : ∃ acts, t.trace = s.trace ++ acts ∧ AsksForNone acts ∧
    t.inbox.location = locationAfter s.inbox.location acts

namespace Keeps

variable {width : Nat} {s t u : Session σ} {acts : List Activity}

/-- Going on is transitive. -/
theorem trans (h : Keeps s t) (h' : Keeps t u) : Keeps s u where
  channel_eq := h'.channel_eq.trans h.channel_eq
  endpoint_eq := h'.endpoint_eq.trans h.endpoint_eq
  handlers_eq := h'.handlers_eq.trans h.handlers_eq
  generation_eq := h'.generation_eq.trans h.generation_eq
  phase := by
    rcases h'.phase with hphase | hphase
    · rw [hphase]
      exact h.phase
    · exact .inr hphase
  follows := by
    obtain ⟨x, htrace, hx, hlocation⟩ := h.follows
    obtain ⟨y, htrace', hy, hlocation'⟩ := h'.follows
    refine ⟨x ++ y, by rw [htrace', htrace, List.append_assoc], fun c endpoint timeout => ?_, ?_⟩
    · rw [List.mem_append, not_or]
      exact ⟨hx c endpoint timeout, hy c endpoint timeout⟩
    · rw [hlocation', hlocation, locationAfter_append]

/-- Deliveries leave a session with its connection. -/
theorem of_delivers (h : Delivers width s acts t) : Keeps s t where
  channel_eq := h.channel_eq
  endpoint_eq := h.endpoint_eq
  handlers_eq := h.handlers_eq
  generation_eq := h.arrives.setup_eq.1
  phase := .inl h.arrives.setup_eq.2.1
  follows := ⟨acts, h.trace_eq,
    fun c endpoint timeout => h.arrives.not_mem_of_told (.inl ⟨c, endpoint, timeout, rfl⟩),
    h.arrives.location_eq⟩

/-- Noting activities that are neither prompts nor openings leaves a session with its
connection. -/
theorem note (s : Session σ) (hprompt : linesHeard .prompt acts = [])
    (hasks : AsksForNone acts) : Keeps s (s.note acts) where
  channel_eq := rfl
  endpoint_eq := rfl
  handlers_eq := rfl
  generation_eq := rfl
  phase := .inl rfl
  follows := ⟨acts, rfl, hasks, by rw [locationAfter, hprompt]; rfl⟩

/-- Changes of the inbox that are about neither the connection nor the location leave a session
with its connection. -/
theorem inbox (s : Session σ) (b : Inbox) (hgeneration : b.generation = s.inbox.generation)
    (hlocation : b.location = s.inbox.location)
    (hphase : b.phase = s.inbox.phase ∨ b.phase = .idle ∨ b.phase = .awaitingPrompt) :
    Keeps s { s with inbox := b } where
  channel_eq := rfl
  endpoint_eq := rfl
  handlers_eq := rfl
  generation_eq := hgeneration
  phase := hphase
  follows := ⟨[], (List.append_nil _).symm, fun _ _ _ => List.not_mem_nil, hlocation⟩

end Keeps

/-- A session goes on with its connection along a send. -/
theorem along_keeps (setup : Setup) : Along setup (@Keeps σ) where
  refl s := .inbox s s.inbox rfl rfl (.inl rfl)
  trans := .trans
  delivers := .of_delivers
  begun s text := by
    have hsending := Keeps.inbox s
      (s.inbox.sending text (contains text setup.settings.sudoMarker)) rfl rfl (.inr (.inr rfl))
    exact hsending.trans (.note _ rfl (by simp [AsksForNone]))
  wrote s connection text := .note s rfl (by simp [AsksForNone])
  giveUpCue s := .inbox s _ rfl rfl (.inl rfl)
  lower s := .inbox s _ rfl rfl (.inl rfl)
  collect s := .inbox s _ rfl rfl (.inr (.inl rfl))

/-! ## Moments between calls -/

/-- Whether a session holds no connection: it knows nothing and listens to no handler. -/
structure Shut (s : Session σ) : Prop where
  channel_eq : s.channel = none
  endpoint_eq : s.endpoint = none
  inbox_eq : s.inbox = { generation := s.inbox.generation }
  stale : ∀ g ∈ s.handlers, g < s.inbox.generation

/-- A session without a connection stays so when it writes a line to the console. -/
theorem Shut.say {s : Session σ} (h : Shut s) (text : String) : Shut (s.say text) :=
  ⟨h.channel_eq, h.endpoint_eq, h.inbox_eq, h.stale⟩

/-- Whether a location is that of the last prompt in a trace since a connection was asked for, and
no other one was asked for since. -/
def LocatedBy (connection : Nat) (trace : List Activity) (location : Option String) : Prop :=
  ∃ before endpoint timeout since line,
    trace = before ++ .opening connection endpoint timeout :: since ∧ AsksForNone since ∧
      (linesHeard .prompt since).getLast? = some line ∧ location = some (promptLocation line)

/-- Whether a session holds a connection: its handler is the only one listened to, and the
location is that of its last prompt. -/
structure Open (s : Session σ) (connection : Nat) : Prop where
  channel_eq : s.channel = some connection
  endpoint_isSome : s.endpoint.isSome = true
  phase : s.inbox.phase = .idle ∨ s.inbox.phase = .awaitingPrompt
  bounded : ∀ g ∈ s.handlers, g ≤ s.inbox.generation
  current : ∀ k, s.handlers[k]? = some s.inbox.generation ↔ k = connection
  located : LocatedBy connection s.trace s.inbox.location

/-- A connection stays open as long as the session keeps it. -/
theorem Open.keeps {s t : Session σ} {connection : Nat} (h : Open s connection)
    (hkeeps : Keeps s t) : Open t connection where
  channel_eq := hkeeps.channel_eq.trans h.channel_eq
  endpoint_isSome := by rw [hkeeps.endpoint_eq, h.endpoint_isSome]
  phase := by
    rcases hkeeps.phase with hphase | hphase
    · rw [hphase]
      exact h.phase
    · exact hphase
  bounded := by
    rw [hkeeps.handlers_eq, hkeeps.generation_eq]
    exact h.bounded
  current := by
    rw [hkeeps.handlers_eq, hkeeps.generation_eq]
    exact h.current
  located := by
    obtain ⟨before, endpoint, timeout, since, line, htrace, hnone, hlast, hlocation⟩ := h.located
    obtain ⟨acts, htrace', hnone', hlocation'⟩ := hkeeps.follows
    rw [LocatedBy, htrace', htrace, hlocation', hlocation, locationAfter]
    refine ⟨before, endpoint, timeout, since ++ acts,
      (linesHeard .prompt acts).getLast?.getD line, by simp, fun c e t => ?_, ?_, ?_⟩
    · rw [List.mem_append, not_or]
      exact ⟨hnone c e t, hnone' c e t⟩
    · rw [linesHeard_append, List.getLast?_append, hlast]
      cases (linesHeard .prompt acts).getLast? <;> rfl
    · cases (linesHeard .prompt acts).getLast? <;> rfl

/-! ## Connecting -/

/-- Whether a session holds no connection and listens to no handler but those that it knows of. -/
structure Searching (s : Session σ) : Prop where
  channel_eq : s.channel = none
  endpoint_eq : s.endpoint = none
  bounded : ∀ g ∈ s.handlers, g ≤ s.inbox.generation

/-- A session without a connection may search for one. -/
theorem Shut.searching {s : Session σ} (h : Shut s) : Searching s :=
  ⟨h.channel_eq, h.endpoint_eq, fun g hg => (h.stale g hg).le⟩

/-- The search goes on as long as the session does. -/
theorem Searching.keeps {s t : Session σ} (h : Searching s) (hkeeps : Keeps s t) : Searching t where
  channel_eq := hkeeps.channel_eq.trans h.channel_eq
  endpoint_eq := hkeeps.endpoint_eq.trans h.endpoint_eq
  bounded := by
    rw [hkeeps.handlers_eq, hkeeps.generation_eq]
    exact h.bounded

/-- After a reset nothing is left of a search. -/
theorem Searching.reset {s : Session σ} (h : Searching s) : Shut s.reset where
  channel_eq := h.channel_eq
  endpoint_eq := h.endpoint_eq
  inbox_eq := rfl
  stale g hg := Nat.lt_succ_of_le (h.bounded g hg)

/-- The session when it has asked for a connection. -/
def dialed (s : Session σ) (setup : Setup) (endpoint : Endpoint) : Session σ :=
  { s with
    inbox := s.inbox.connecting endpoint.user setup.settings.superuser setup.settings.passwordCue
    handlers := s.handlers ++ [s.inbox.generation + 1] }.note
      [.opening s.handlers.length endpoint setup.settings.connectTimeout]

section Connect

variable (host : Host σ) (setup : Setup) {s t : Session σ} {endpoint : Endpoint}

/-- Asking for a connection is part of the search. -/
theorem Searching.dialed (h : Searching s) : Searching (s.dialed setup endpoint) where
  channel_eq := h.channel_eq
  endpoint_eq := h.endpoint_eq
  bounded g hg := by
    rcases List.mem_append.mp hg with hg | hg
    · exact (h.bounded g hg).trans (Nat.le_succ _)
    · exact (List.mem_singleton.mp hg).le

/-- When a connection has been asked for, its handler is the only one of its generation. -/
theorem Searching.handlers_dialed (h : Searching s) (endpoint : Endpoint) (k : Nat) :
    (s.dialed setup endpoint).handlers[k]? = some (s.dialed setup endpoint).inbox.generation ↔
      k = s.handlers.length := by
  change (s.handlers ++ [s.inbox.generation + 1])[k]? = some (s.inbox.generation + 1) ↔ _
  constructor
  · intro hk
    -- handlers before the new one are of earlier generations, and there are none after it
    rcases lt_trichotomy k s.handlers.length with hlt | heq | hgt
    · rw [List.getElem?_append_left hlt] at hk
      exact absurd (h.bounded _ (List.mem_of_getElem? hk)) (Nat.not_succ_le_self _)
    · exact heq
    · rw [List.getElem?_eq_none (by rw [List.length_append, List.length_singleton]; omega)] at hk
      cases hk
  · rintro rfl
    rw [List.getElem?_append_right le_rfl, Nat.sub_self]
    rfl

/-- A connection that has been asked for is open when a prompt has been heard on it. -/
theorem Searching.opened (h : Searching s) {acts : List Activity}
    (hkeeps : Keeps (s.dialed setup endpoint) t)
    (htrace : t.trace = (s.dialed setup endpoint).trace ++ acts)
    (hheard : linesHeard .prompt acts ≠ []) :
    Open { t with
      channel := some s.handlers.length
      endpoint := some endpoint
      inbox := { t.inbox with phase := .idle } } s.handlers.length where
  channel_eq := rfl
  endpoint_isSome := rfl
  phase := .inl rfl
  bounded := ((h.dialed setup).keeps hkeeps).bounded
  current k := by
    have hcurrent := h.handlers_dialed setup endpoint k
    rw [← hkeeps.handlers_eq, ← hkeeps.generation_eq] at hcurrent
    exact hcurrent
  located := by
    obtain ⟨since, htrace', hnone, hlocation⟩ := hkeeps.follows
    obtain rfl := List.append_cancel_left (htrace.symm.trans htrace')
    have hlast : (linesHeard .prompt acts).getLast? =
        some ((linesHeard .prompt acts).getLast hheard) := List.getLast?_eq_getLast_of_ne_nil hheard
    refine ⟨s.trace, endpoint, setup.settings.connectTimeout, acts, _, ?_, hnone, hlast, ?_⟩
    · rw [htrace, Session.dialed, note, List.append_assoc]
      rfl
    · change t.inbox.location = _
      rw [hlocation, locationAfter, hlast]
      rfl

/-- Closing a connection on which no prompt came is part of the search. -/
theorem Searching.dropped (h : Searching s) (connection : Nat) :
    Searching ((s.pause host setup .dropping).close host setup connection) := by
  obtain ⟨x, hx⟩ := delivers_pause host setup s .dropping
  obtain ⟨y, hy⟩ := delivers_close host setup (s.pause host setup .dropping) connection
  exact h.keeps ((Keeps.of_delivers hx).trans (.of_delivers hy))

/-- The session when its request for a connection has been answered. -/
def answered (s : Session σ) (endpoint : Endpoint) : Session σ :=
  (s.dialed setup endpoint).absorb setup.width
    (host.openShell s.handlers.length endpoint setup.settings.connectTimeout s.world)

/-- An attempt to connect, in terms of its stages. -/
theorem attempt_eq (s : Session σ) (endpoint : Endpoint) :
    s.attempt host setup endpoint =
      if (host.openShell s.handlers.length endpoint setup.settings.connectTimeout
          s.world).failure.isSome then
        (false, s.answered host setup endpoint)
      else
        let t := (s.answered host setup endpoint).note [.opened s.handlers.length]
        match t.waitForPrompt setup.width
            (host.await (some setup.settings.connectTimeout) t.world) with
        | (.ready, t) =>
          let t := t.pause host setup .settling
          (true, { t with
            channel := some s.handlers.length
            endpoint := some endpoint
            inbox := { t.inbox with phase := .idle } })
        | (_, t) =>
          (false, (t.pause host setup .dropping).close host setup s.handlers.length) := rfl

/-- The session when it comes to hold a connection. -/
def joined (s : Session σ) (connection : Nat) (endpoint : Endpoint) : Session σ :=
  { s with
    channel := some connection
    endpoint := some endpoint
    inbox := { s.inbox with phase := .idle } }

/-- What holds along waits holds from the request for a connection to the end of the attempt, but
for the connection that the session may then come to hold. -/
theorem along_attempt {R : Session σ → Session σ → Prop} (hR : AlongWaits setup R)
    (s : Session σ) (endpoint : Endpoint) :
    ∃ t, R (s.dialed setup endpoint) t ∧
      (s.attempt host setup endpoint = (false, t) ∨
        s.attempt host setup endpoint = (true, t.joined s.handlers.length endpoint)) := by
  obtain ⟨w, hw⟩ : ∃ w, Delivers setup.width (s.dialed setup endpoint) w
      (s.answered host setup endpoint) := delivers_absorb setup.width _ _
  rw [attempt_eq]
  split_ifs with hfailure
  · exact ⟨_, hR.delivers hw, .inl rfl⟩
  · have hopened := hw.trans (.note (s.answered host setup endpoint) ⟨s.handlers.length, .inl rfl⟩)
    dsimp only
    generalize (s.answered host setup endpoint).note [.opened s.handlers.length] = o at hopened ⊢
    obtain ⟨x, t, hx, ⟨-, heq⟩ | ⟨reason, -, heq⟩ | heq⟩ :=
      waitForPrompt_spec setup.width o (host.await (some setup.settings.connectTimeout) o.world)
    · obtain ⟨y, hy⟩ := delivers_pause host setup
        { t with inbox := { t.inbox with promptSeen := false } } .settling
      rw [heq]
      exact ⟨_, hR.trans (hR.delivers (hopened.trans hx))
        (hR.trans (hR.lower t) (hR.delivers hy)), .inr rfl⟩
    -- an attempt without a prompt is dropped
    all_goals
      obtain ⟨y, hy⟩ := delivers_pause host setup t .dropping
      obtain ⟨z, hz⟩ := delivers_close host setup (t.pause host setup .dropping) s.handlers.length
      rw [heq]
      exact ⟨_, hR.delivers ((hopened.trans hx).trans (hy.trans hz)), .inl rfl⟩

/-- A send keeps to what holds along sends, also when it is refused. -/
theorem along_send {R : Session σ → Session σ → Prop} (hR : Along setup R) (s : Session σ)
    (text : String) :
    R s (s.send host setup text).2 := by
  rw [send]
  split
  · next endpoint connection _ _ =>
    split
    · exact hR.refl s
    · obtain ⟨acts, h⟩ :=
        sendRun_sendThrough host setup s connection endpoint.password (trimmed text)
      exact h.along hR
  · exact hR.refl s

/-- An attempt to connect ends with the connection open, or goes on with the search. -/
theorem Searching.attempt (h : Searching s) (endpoint : Endpoint) :
    (∃ t, s.attempt host setup endpoint = (true, t) ∧ Open t s.handlers.length) ∨
      ∃ t, s.attempt host setup endpoint = (false, t) ∧ Searching t := by
  obtain ⟨w, hw⟩ : ∃ w, Delivers setup.width (s.dialed setup endpoint) w
      (s.answered host setup endpoint) := delivers_absorb setup.width _ _
  rw [attempt_eq]
  split_ifs with hfailure
  · exact .inr ⟨_, rfl, (h.dialed setup).keeps (.of_delivers hw)⟩
  · have hopened := hw.trans (.note (s.answered host setup endpoint) ⟨s.handlers.length, .inl rfl⟩)
    obtain ⟨x, t, hx, ⟨hseen, heq⟩ | ⟨reason, -, heq⟩ | heq⟩ :=
      waitForPrompt_spec setup.width
        ((s.answered host setup endpoint).note [.opened s.handlers.length])
        (host.await (some setup.settings.connectTimeout)
          ((s.answered host setup endpoint).note [.opened s.handlers.length]).world)
    · have hfirst := hopened.trans hx
      -- an attempt begins without a prompt, so the one that ends the wait was heard in it
      have hheard : linesHeard .prompt ((w ++ [.opened s.handlers.length]) ++ x) ≠ [] := by
        intro hnil
        rw [hfirst.arrives.promptSeen_eq, hnil] at hseen
        cases hseen
      dsimp only
      rw [heq]
      obtain ⟨y, hy⟩ := delivers_pause host setup
        { t with inbox := { t.inbox with promptSeen := false } } .settling
      have hlower := Keeps.inbox t { t.inbox with promptSeen := false } rfl rfl (.inl rfl)
      have htrace : (Session.pause { t with inbox := { t.inbox with promptSeen := false } } host
          setup .settling).trace =
            (s.dialed setup endpoint).trace ++ (w ++ [.opened s.handlers.length] ++ x ++ y) := by
        rw [hy.trace_eq, hfirst.trace_eq, List.append_assoc]
      refine .inl ⟨_, rfl, h.opened setup
        ((Keeps.of_delivers hfirst).trans (hlower.trans (.of_delivers hy))) htrace ?_⟩
      rw [linesHeard_append]
      exact fun hnil => hheard (List.append_eq_nil_iff.mp hnil).1
    · dsimp only
      rw [heq]
      have hsearch := (h.dialed setup).keeps (.of_delivers (hopened.trans hx))
      exact .inr ⟨_, rfl, hsearch.dropped host setup s.handlers.length⟩
    · dsimp only
      rw [heq]
      have hsearch := (h.dialed setup).keeps (.of_delivers (hopened.trans hx))
      exact .inr ⟨_, rfl, hsearch.dropped host setup s.handlers.length⟩

section Cases

variable {host setup} {endpoint : Endpoint} {P Q : Session σ → Prop}
  (hsay : ∀ s text, P s → P (s.say text))
  (hpause : ∀ s, P s → P (s.pause host setup .retrying))
  (hattempt : ∀ s, P s → (∃ t, s.attempt host setup endpoint = (true, t) ∧ Q t) ∨
    ∃ t, s.attempt host setup endpoint = (false, t) ∧ P t)

include hsay hpause hattempt

/-- What stays true while attempts to connect fail is true when all of them have failed, and what
one that succeeds makes true is true when one has. -/
theorem attempts_cases (left number : Nat) (h : P s) :
    (∃ t, attempts host setup endpoint left number s = (true, t) ∧ Q t) ∨
      ∃ t, attempts host setup endpoint left number s = (false, t) ∧ P t := by
  induction left generalizing number s with
  | zero => exact .inr ⟨s, rfl, h⟩
  | succ left ih =>
    rw [attempts]
    have hannounced : P (s.announceAttempt host setup number) := by
      rw [announceAttempt]
      split_ifs
      · exact h
      · exact hpause _ (hsay s _ h)
    rcases hattempt _ hannounced with ⟨t, heq, ht⟩ | ⟨t, heq, ht⟩
    · exact .inl ⟨t, by simp only [heq], ht⟩
    · simp only [heq]
      exact ih (number + 1) ht

/-- How connecting a session that has no endpoint ends. -/
theorem connect_cases (hnone : s.endpoint = none) (h : P s) :
    (∃ t, s.connect host setup endpoint = (none, t.say "Ssh connection success") ∧ Q t) ∨
      ∃ t cause text, s.connect host setup endpoint = (some cause, t.reset.say text) ∧ P t := by
  rw [connect, hnone]
  dsimp only
  rcases attempts_cases hsay hpause hattempt (max setup.settings.connectAttempts 1) 1 h with
    ⟨t, heq, ht⟩ | ⟨t, heq, ht⟩
  · rw [heq]
    exact .inl ⟨t, rfl, ht⟩
  · rw [heq]
    exact .inr ⟨t, _, _, rfl, ht⟩

end Cases

/-- Connecting ends with a connection open, or as the search has ended. -/
theorem Searching.connect (h : Searching s) (hnone : s.endpoint = none) (endpoint : Endpoint) :
    (∃ t, s.connect host setup endpoint = (none, t.say "Ssh connection success") ∧
        ∃ c, Open t c) ∨
      ∃ t cause text, s.connect host setup endpoint = (some cause, t.reset.say text) ∧
        Searching t := by
  refine connect_cases (fun s text hs => hs.keeps (.note s rfl (by simp [AsksForNone]))) ?_ ?_
    hnone h
  · intro s hs
    obtain ⟨x, hx⟩ := delivers_pause host setup s .retrying
    exact hs.keeps (.of_delivers hx)
  intro s hs
  rcases hs.attempt host setup endpoint with ⟨t, heq, hopen⟩ | hfailed
  · exact .inl ⟨t, heq, _, hopen⟩
  · exact .inr hfailed

end Connect

/-! ## Steps and runs -/

section Runs

variable (host : Host σ) (setup : Setup) {s : Session σ}

/-- Whether a session is in one of the two states it can be in between calls. -/
def Settled (s : Session σ) : Prop := Shut s ∨ ∃ c, Open s c

/-- The connection that a settled session holds is open. -/
theorem Settled.open_of_channel (h : Settled s) {c : Nat} (hchannel : s.channel = some c) :
    Open s c := by
  rcases h with hshut | ⟨c', hopen⟩
  · rw [hshut.channel_eq] at hchannel
    cases hchannel
  · rwa [Option.some.inj (hopen.channel_eq.symm.trans hchannel)] at hopen

/-- A settled session that holds no connection is shut. -/
theorem Settled.shut_of_channel (h : Settled s) (hchannel : s.channel = none) : Shut s := by
  rcases h with hshut | ⟨c, hopen⟩
  · exact hshut
  · rw [hopen.channel_eq] at hchannel
    cases hchannel

/-- A settled session that is connected to nothing is shut. -/
theorem Settled.shut_of_endpoint (h : Settled s) (hendpoint : s.endpoint = none) : Shut s := by
  rcases h with hshut | ⟨c, hopen⟩
  · exact hshut
  · rw [← Option.not_isSome_iff_eq_none] at hendpoint
    exact absurd hopen.endpoint_isSome hendpoint

/-- What goes on with an open connection leaves the session settled. -/
theorem Open.settled {t : Session σ} {c : Nat} (h : Open s c) (hkeeps : Keeps s t) : Settled t :=
  .inr ⟨c, h.keeps hkeeps⟩

/-- A session without a connection is not reached by deliveries. -/
theorem Shut.deliver_eq (h : Shut s) (width : Nat) (d : Delivery) : s.deliver width d = s :=
  deliver_eq_self width fun hg => (h.stale _ (List.mem_of_getElem? hg)).ne rfl

/-- An open connection is not reached by deliveries of other connections. -/
theorem Open.deliver_eq {c : Nat} (h : Open s c) (width : Nat) {d : Delivery}
    (hother : d.connection ≠ c) : s.deliver width d = s :=
  deliver_eq_self width fun hg => hother ((h.current _).mp hg)

/-- Connecting leaves the session settled. -/
theorem Settled.connect (h : Settled s) (endpoint : Endpoint) :
    Settled (s.connect host setup endpoint).2 := by
  cases hnone : s.endpoint with
  | some current =>
    rw [Session.connect, hnone]
    exact h
  | none =>
    rcases (h.shut_of_endpoint hnone).searching.connect host setup hnone endpoint with
      ⟨t, heq, c, hopen⟩ | ⟨t, cause, text, heq, hsearch⟩
    · rw [heq]
      exact hopen.settled (.note t rfl (by simp [AsksForNone]))
    · rw [heq]
      exact .inl (hsearch.reset.say text)

/-- A send on a stream that is known to have failed is refused, and nothing happens. -/
theorem Open.send_of_failed {c : Nat} (h : Open s c) {reason : String}
    (hreason : s.inbox.streamError = some reason) (text : String) :
    s.send host setup text = (.failed (.streamClosed reason), s) := by
  obtain ⟨endpoint, hendpoint⟩ := Option.isSome_iff_exists.mp h.endpoint_isSome
  simp only [Session.send, hendpoint, h.channel_eq, hreason]

/-- A send on an intact stream goes through the connection. -/
theorem Open.send_of_intact {c : Nat} (h : Open s c) (hintact : s.inbox.streamError = none)
    (text : String) :
    ∃ endpoint, s.endpoint = some endpoint ∧
      s.send host setup text =
        s.sendThrough host setup c endpoint.password (trimmed text) := by
  obtain ⟨endpoint, hendpoint⟩ := Option.isSome_iff_exists.mp h.endpoint_isSome
  refine ⟨endpoint, hendpoint, ?_⟩
  simp only [Session.send, hendpoint, h.channel_eq, hintact]

/-- Sending leaves the session settled. -/
theorem Settled.send (h : Settled s) (text : String) : Settled (s.send host setup text).2 := by
  rcases h with hshut | ⟨c, hopen⟩
  · rw [Session.send, hshut.endpoint_eq]
    exact .inl hshut
  · exact hopen.settled (along_send host setup (along_keeps setup) s text)

/-- Beginning fixed-row mode leaves the session settled. -/
theorem Settled.enterRedraw (h : Settled s) (row : Option Nat) :
    Settled (s.enterRedraw host setup row).2 := by
  rw [Session.enterRedraw]
  split_ifs with hconnected
  · rcases h with hshut | ⟨c, hopen⟩
    · rw [isConnected, hshut.channel_eq] at hconnected
      cases hconnected
    · obtain ⟨x, hx⟩ := delivers_pause host setup (s.display .clear) .drawing
      have hclear : Keeps s (s.display .clear) := .note s rfl (by simp [AsksForNone])
      exact hopen.settled (hclear.trans ((Keeps.of_delivers hx).trans
        (.inbox _ _ rfl rfl (.inl rfl))))
  · exact h

/-- Ending fixed-row mode leaves the session settled. -/
theorem Settled.exitRedraw (h : Settled s) : Settled s.exitRedraw := by
  rcases h with hshut | ⟨c, hopen⟩
  · refine .inl ⟨hshut.channel_eq, hshut.endpoint_eq, ?_, hshut.stale⟩
    rw [Session.exitRedraw, hshut.inbox_eq]
  · exact hopen.settled (.inbox s _ rfl rfl (.inl rfl))

/-- Disconnecting shuts the session. -/
theorem Settled.disconnect (h : Settled s) : Shut (s.disconnect host setup).2 := by
  rw [Session.disconnect]
  split
  · next hnone =>
    rcases h with hshut | ⟨c, hopen⟩
    · exact ⟨hshut.channel_eq, rfl, hshut.inbox_eq, hshut.stale⟩
    · rw [hopen.channel_eq] at hnone
      cases hnone
  · next c hchannel =>
    -- deliveries still count while the connection is flushed and closed
    have hbounded : ∀ g ∈ s.handlers, g ≤ s.inbox.generation := by
      rcases h with hshut | ⟨c', hopen⟩
      · exact hshut.searching.bounded
      · exact hopen.bounded
    obtain ⟨x, hx⟩ := delivers_flush host setup { s with channel := none } c
    obtain ⟨y, hy⟩ := delivers_close host setup
      ({ s with channel := none }.flush host setup c).2 c
    have hxy := hx.trans hy
    have hsearch : Searching { ({ s with channel := none }.flush host setup c).2.close host setup c
        with endpoint := none } := by
      refine ⟨hxy.channel_eq, rfl, ?_⟩
      rw [hxy.handlers_eq, hxy.arrives.setup_eq.1]
      exact hbounded
    exact hsearch.reset.say _

/-- Every step leaves the session settled. -/
theorem Settled.step (h : Settled s) (a : Step σ) : Settled (s.step host setup a) := by
  cases a with
  | connect endpoint => exact h.connect host setup endpoint
  | send text => exact h.send host setup text
  | enterRedraw row => exact h.enterRedraw host setup row
  | exitRedraw => exact h.exitRedraw
  | disconnect => exact .inl (h.disconnect host setup)
  | deliver d =>
    rcases h with hshut | ⟨c, hopen⟩
    · refine .inl ?_
      rw [Session.step, hshut.deliver_eq]
      exact hshut
    · obtain ⟨acts, hd⟩ := delivers_deliver setup.width s d
      exact hopen.settled (.of_delivers hd)
  | elapse world =>
    rcases h with hshut | ⟨c, hopen⟩
    · exact .inl ⟨hshut.1, hshut.2, hshut.3, hshut.4⟩
    · exact hopen.settled (.of_delivers (.none s world : Delivers setup.width s [] _))

/-- Every run leaves the session settled. -/
theorem settled_run (h : Settled s) (steps : List (Step σ)) :
    Settled (s.run host setup steps) := by
  induction steps generalizing s with
  | nil => exact h
  | cons a steps ih => exact ih (h.step host setup a)

/-- A new session is shut. -/
theorem shut_new (world : σ) : Shut ({ world } : Session σ) :=
  ⟨rfl, rfl, rfl, fun _ hg => nomatch hg⟩

end Runs

/-! ## The main statement -/

/-- What holds of a session between calls. -/
structure BetweenCalls (s : Session σ) : Prop where
  endpoint_iff : s.channel.isSome = true ↔ s.endpoint.isSome = true
  phase_iff : s.channel.isSome = true ↔
    s.inbox.phase = .idle ∨ s.inbox.phase = .awaitingPrompt
  /-- Without a connection nothing is known, and nothing is left of an earlier one. -/
  nothing_known : s.channel = none →
    s.inbox.phase = .disconnected ∧ s.inbox.location = none ∧ s.inbox.lastSent = none ∧
      s.inbox.streamError = none ∧ s.inbox.pending = [] ∧ s.inbox.queue = [] ∧
      s.inbox.completed = [] ∧ s.inbox.redraw.active = false
  /-- With a connection, the location is that of the last prompt heard on it. -/
  located : ∀ c, s.channel = some c → LocatedBy c s.trace s.inbox.location
  /-- With a connection, no delivery of another one counts. -/
  deliver_eq : ∀ c, s.channel = some c → ∀ width d, d.connection ≠ c → s.deliver width d = s

/-- Both states of a session between calls have all of this. -/
theorem Settled.betweenCalls {s : Session σ} (h : Settled s) : BetweenCalls s := by
  rcases h with hshut | ⟨c, hopen⟩
  · have hchannel := hshut.channel_eq
    constructor
    · rw [hchannel, hshut.endpoint_eq]
      simp
    · rw [hchannel, hshut.inbox_eq]
      simp
    · intro _
      rw [hshut.inbox_eq]
      exact ⟨rfl, rfl, rfl, rfl, rfl, rfl, rfl, rfl⟩
    · intro c hc
      rw [hchannel] at hc
      cases hc
    · intro c hc
      rw [hchannel] at hc
      cases hc
  · have hchannel := hopen.channel_eq
    constructor
    · rw [hchannel, hopen.endpoint_isSome]
      simp
    · rw [hchannel]
      exact iff_of_true rfl hopen.phase
    · intro hnone
      rw [hchannel] at hnone
      cases hnone
    · intro c' hc
      obtain rfl : c = c' := Option.some.inj (hchannel.symm.trans hc)
      exact hopen.located
    · intro c' hc width d hother
      obtain rfl : c = c' := Option.some.inj (hchannel.symm.trans hc)
      exact hopen.deliver_eq width hother

/-- **What holds between calls.**  After every run of a new session, whatever its host does and
whatever is delivered, a connection is held exactly when an endpoint is, and exactly in the two
phases of an open session; without a connection nothing is known, and with one the location is
that of the last prompt on it. -/
theorem lifecycle_run (host : Host σ) (setup : Setup) (world : σ) (steps : List (Step σ)) :
    BetweenCalls (run host setup { world } steps) :=
  (settled_run host setup (.inl (shut_new world)) steps).betweenCalls

end ScriptedShell.Remote.Session
