/-
# Sessions that differ in their passwords

Two sessions run side by side, each with its own password, against hosts that answer alike: the
same calls fail, and the same bytes arrive.  The sessions then stay alike: what they have taken in,
what they show and where they are is the same, and they write the same to their connections, save
that each writes its own password.  Every operation of a session has one lemma that says so.
-/
import Mathlib
import ScriptedShell.Remote.Session

namespace ScriptedShell

open Remote Command Text

/-! ## Results of two runs -/

/-- The same value in two runs, next to states that are related. -/
structure Both {α σ τ : Type} (R : σ → τ → Prop) (x : α × σ) (y : α × τ) : Prop where
  value : x.1 = y.1
  state : R x.2 y.2

/-- The results of two runs as pairs. -/
theorem Both.exists_eq {α σ τ : Type} {R : σ → τ → Prop} {x : α × σ} {y : α × τ}
    (h : Both R x y) : ∃ a s s', x = (a, s) ∧ y = (a, s') ∧ R s s' :=
  ⟨x.1, x.2, y.2, rfl, by rw [h.value], h.state⟩

/-- Two runs both have nothing, or both have something and it is related. -/
theorem rel_cases {α β : Type} {R : α → β → Prop} {x : Option α} {y : Option β}
    (h : Option.Rel R x y) : (x = none ∧ y = none) ∨ ∃ a b, x = some a ∧ y = some b ∧ R a b := by
  cases h with
  | none => exact .inl ⟨rfl, rfl⟩
  | some hab => exact .inr ⟨_, _, rfl, rfl, hab⟩

/-- What is found in two runs is related, or else what stands in for it. -/
theorem rel_getD {α β : Type} {R : α → β → Prop} {x : Option α} {y : Option β}
    (h : Option.Rel R x y) {a : α} {b : β} (hab : R a b) : R (x.getD a) (y.getD b) := by
  cases h with
  | some hfound => exact hfound
  | none => exact hab

/-- Two runs side by side: the password of each, and the worlds that they are in together. -/
structure Twins (σ τ : Type) where
  first : String
  second : String
  worlds : σ → τ → Prop

namespace Twins

variable {σ τ : Type} (A : Twins σ τ)

/-! ## What is alike -/

/-- The same text in both runs, or in each its password. -/
inductive Texts : String → String → Prop
  | same (text : String) : Texts text text
  | passwords : Texts A.first A.second

/-- Endpoints that differ in their passwords at most. -/
structure Endpoints (e e' : Endpoint) : Prop where
  host : e.host = e'.host
  port : e.port = e'.port
  user : e.user = e'.user
  password : A.Texts e.password e'.password

/-- Activities that show the same and write the same, but for the passwords. -/
inductive Activities : Activity → Activity → Prop
  | same (a : Activity) : Activities a a
  | opening (connection : Nat) {e e' : Endpoint} (h : A.Endpoints e e') (timeout : Duration) :
    Activities (.opening connection e timeout) (.opening connection e' timeout)
  | wrote (connection : Nat) {text text' : String} (h : A.Texts text text') :
    Activities (.wrote connection (text ++ "\r")) (.wrote connection (text' ++ "\r"))
  | dispatched {line line' : Line} (h : line.masked = line'.masked) :
    Activities (.dispatched line) (.dispatched line')

/-- Sessions in the same state, but for the passwords. -/
structure Sessions (s : Session σ) (s' : Session τ) : Prop where
  inbox : s.inbox = s'.inbox
  handlers : s.handlers = s'.handlers
  channel : s.channel = s'.channel
  endpoint : Option.Rel A.Endpoints s.endpoint s'.endpoint
  trace : List.Forall₂ A.Activities s.trace s'.trace
  world : A.worlds s.world s'.world

/-- Answers to a call that are the same for the session. -/
structure Replies (r : Reply σ) (r' : Reply τ) : Prop where
  failure : r.failure = r'.failure
  deliveries : r.deliveries = r'.deliveries
  world : A.worlds r.world r'.world

/-- The same deliveries during a wait. -/
inductive Waits : Arrivals σ → Arrivals τ → Prop
  | nothing {w : σ} {w' : τ} (h : A.worlds w w') : Waits (.nothing w) (.nothing w')
  | batch (deliveries : List Delivery) {w : σ} {w' : τ} (h : A.worlds w w')
    {more : Arrivals σ} {more' : Arrivals τ} (hmore : Waits more more') :
    Waits (.batch deliveries w more) (.batch deliveries w' more')

/-- Hosts that answer the two runs alike as long as these differ in their passwords only. -/
structure Hosts (host : Host σ) (host' : Host τ) : Prop where
  openShell : ∀ {e e' w w'}, A.Endpoints e e' → A.worlds w w' → ∀ connection timeout,
    A.Replies (host.openShell connection e timeout w) (host'.openShell connection e' timeout w')
  write : ∀ {text text' w w'}, A.Texts text text' → A.worlds w w' → ∀ connection,
    A.Replies (host.write connection (text ++ "\r") w) (host'.write connection (text' ++ "\r") w')
  flush : ∀ {w w'}, A.worlds w w' → ∀ connection,
    A.Replies (host.flush connection w) (host'.flush connection w')
  close : ∀ {w w'}, A.worlds w w' → ∀ connection,
    A.Replies (host.close connection w) (host'.close connection w')
  await : ∀ {w w'}, A.worlds w w' → ∀ timeout,
    A.Waits (host.await timeout w) (host'.await timeout w')
  pause : ∀ {w w'}, A.worlds w w' → ∀ moment,
    Both A.worlds (host.pause moment w) (host'.pause moment w')

variable {A}

/-- The same activities are alike. -/
theorem activities_same (acts : List Activity) : List.Forall₂ A.Activities acts acts :=
  List.forall₂_same.mpr fun a _ => .same a

namespace Sessions

variable {s : Session σ} {s' : Session τ} {host : Host σ} {host' : Host τ} (setup : Setup)

/-- Both sessions hold a connection, or neither does. -/
theorem isConnected_eq (h : A.Sessions s s') : s.isConnected = s'.isConnected := by
  rw [Session.isConnected, Session.isConnected, h.channel]

/-! ## Deliveries and calls

What a delivery changes is decided by the inbox, which is the same in both runs; what a call brings
is decided by the host. -/

theorem withInbox (h : A.Sessions s s') {b b' : Inbox} (hb : b = b') :
    A.Sessions { s with inbox := b } { s' with inbox := b' } := { h with inbox := hb }

theorem withWorld (h : A.Sessions s s') {w : σ} {w' : τ} (hw : A.worlds w w') :
    A.Sessions { s with world := w } { s' with world := w' } := { h with world := hw }

theorem withoutEndpoint (h : A.Sessions s s') :
    A.Sessions { s with endpoint := none } { s' with endpoint := none } :=
  { h with endpoint := .none }

theorem note (h : A.Sessions s s') {acts acts' : List Activity}
    (ha : List.Forall₂ A.Activities acts acts') : A.Sessions (s.note acts) (s'.note acts') :=
  { h with trace := List.rel_append h.trace ha }

theorem noteSame (h : A.Sessions s s') (acts : List Activity) :
    A.Sessions (s.note acts) (s'.note acts) := h.note (activities_same acts)

theorem say (h : A.Sessions s s') (text : String) : A.Sessions (s.say text) (s'.say text) :=
  h.noteSame _

theorem accept (h : A.Sessions s s') (width generation : Nat) (signal : Signal) :
    A.Sessions (s.accept width generation signal) (s'.accept width generation signal) := by
  cases signal with
  | data bytes =>
    rw [Session.accept.eq_def, Session.accept.eq_def, h.inbox]
    exact (h.withInbox rfl).noteSame _
  | broken cause =>
    rw [Session.accept.eq_def, Session.accept.eq_def, h.inbox]
    exact (h.withInbox rfl).noteSame _

theorem deliver (h : A.Sessions s s') (width : Nat) (d : Delivery) :
    A.Sessions (s.deliver width d) (s'.deliver width d) := by
  rw [Session.deliver, Session.deliver, h.handlers]
  cases s'.handlers[d.connection]? with
  | some generation => exact h.accept width generation d.signal
  | none => exact h

theorem deliverAll (h : A.Sessions s s') (width : Nat) (ds : List Delivery) :
    A.Sessions (s.deliverAll width ds) (s'.deliverAll width ds) := by
  induction ds generalizing s s' with
  | nil => exact h
  | cons d ds ih => exact ih (h.deliver width d)

theorem absorb (h : A.Sessions s s') (width : Nat) {r : Reply σ} {r' : Reply τ}
    (hr : A.Replies r r') : A.Sessions (s.absorb width r) (s'.absorb width r') := by
  rw [Session.absorb, Session.absorb, hr.deliveries]
  exact (h.withWorld hr.world).deliverAll width r'.deliveries

theorem pause (h : A.Sessions s s') (hh : A.Hosts host host') (moment : Moment) :
    A.Sessions (s.pause host setup moment) (s'.pause host' setup moment) := by
  obtain ⟨ds, w, w', hw, hw', hworlds⟩ := (hh.pause h.world moment).exists_eq
  rw [Session.pause, Session.pause, hw, hw']
  exact (h.withWorld hworlds).deliverAll setup.width ds

theorem writeTo (h : A.Sessions s s') (hh : A.Hosts host host') (connection : Nat)
    {text text' : String} (ht : A.Texts text text') :
    Both A.Sessions (s.writeTo host setup connection (text ++ "\r"))
      (s'.writeTo host' setup connection (text' ++ "\r")) := by
  have hr := hh.write ht h.world connection
  exact ⟨hr.failure, (h.note (.cons (.wrote connection ht) .nil)).absorb setup.width hr⟩

theorem flush (h : A.Sessions s s') (hh : A.Hosts host host') (connection : Nat) :
    Both A.Sessions (s.flush host setup connection) (s'.flush host' setup connection) := by
  have hr := hh.flush h.world connection
  exact ⟨hr.failure, (h.noteSame _).absorb setup.width hr⟩

theorem close (h : A.Sessions s s') (hh : A.Hosts host host') (connection : Nat) :
    A.Sessions (s.close host setup connection) (s'.close host' setup connection) :=
  (h.noteSame _).absorb setup.width (hh.close h.world connection)

theorem enter (h : A.Sessions s s') (hh : A.Hosts host host') (connection : Nat)
    {text text' : String} (ht : A.Texts text text') :
    Both A.Sessions (s.enter host setup connection text)
      (s'.enter host' setup connection text') := by
  obtain ⟨failure, t, t', hx, hx', h⟩ :=
    (h.writeTo setup hh connection ht).exists_eq
  rw [Session.enter, Session.enter, hx, hx']
  cases failure with
  | some cause => exact ⟨rfl, h⟩
  | none => exact h.flush setup hh connection

/-! ## Waits

A wait looks at the inbox between the batches that arrive. -/

/-- A wait for the prompt goes on with a batch when it finds nothing yet. -/
theorem waitForPrompt_batch (s : Session σ) (width : Nat) (ds : List Delivery) (w : σ)
    (more : Arrivals σ) :
    s.waitForPrompt width (.batch ds w more) =
      s.promptFound.getD
        (({ s with world := w }.deliverAll width ds).waitForPrompt width more) := by
  rw [Session.waitForPrompt]
  cases s.promptFound <;> rfl

/-- A wait for a request goes on with a batch when it finds nothing yet. -/
theorem waitForCue_batch (s : Session σ) (width : Nat) (ds : List Delivery) (w : σ)
    (more : Arrivals σ) :
    s.waitForCue width (.batch ds w more) =
      s.cueFound.getD (({ s with world := w }.deliverAll width ds).waitForCue width more) := by
  rw [Session.waitForCue]
  cases s.cueFound <;> rfl

theorem promptFound (h : A.Sessions s s') :
    Option.Rel (Both A.Sessions) s.promptFound s'.promptFound := by
  rw [Session.promptFound, Session.promptFound, h.inbox]
  split_ifs
  · exact .some ⟨rfl, h.withInbox rfl⟩
  · cases s'.inbox.streamError with
    | some reason => exact .some ⟨rfl, h⟩
    | none => exact .none

theorem waitForPrompt (h : A.Sessions s s') (width : Nat) {arrivals : Arrivals σ}
    {arrivals' : Arrivals τ} (ha : A.Waits arrivals arrivals') :
    Both A.Sessions (s.waitForPrompt width arrivals) (s'.waitForPrompt width arrivals') := by
  induction ha generalizing s s' with
  | nothing hw => exact rel_getD h.promptFound ⟨rfl, h.withWorld hw⟩
  | batch ds hw _ ih =>
    rw [waitForPrompt_batch, waitForPrompt_batch]
    exact rel_getD h.promptFound (ih ((h.withWorld hw).deliverAll width ds))

theorem giveUpCue (h : A.Sessions s s') : A.Sessions s.giveUpCue s'.giveUpCue := by
  rw [Session.giveUpCue, Session.giveUpCue, h.inbox]
  exact h.withInbox rfl

theorem cueFound (h : A.Sessions s s') :
    Option.Rel (Both A.Sessions) s.cueFound s'.cueFound := by
  rw [Session.cueFound, Session.cueFound, h.inbox]
  split_ifs
  · exact .some ⟨rfl, h⟩
  · exact .some ⟨rfl, h.giveUpCue⟩
  · exact .none

theorem waitForCue (h : A.Sessions s s') (width : Nat) {arrivals : Arrivals σ}
    {arrivals' : Arrivals τ} (ha : A.Waits arrivals arrivals') :
    Both A.Sessions (s.waitForCue width arrivals) (s'.waitForCue width arrivals') := by
  induction ha generalizing s s' with
  | nothing hw => exact rel_getD h.cueFound ⟨rfl, (h.withWorld hw).giveUpCue⟩
  | batch ds hw _ ih =>
    rw [waitForCue_batch, waitForCue_batch]
    exact rel_getD h.cueFound (ih ((h.withWorld hw).deliverAll width ds))

/-! ## Connecting

Whether an attempt succeeds, how many are made and what is said about them depends on the host's
answers and on the address, not on the password. -/

theorem reset (h : A.Sessions s s') : A.Sessions s.reset s'.reset := by
  rw [Session.reset, Session.reset, h.inbox]
  exact h.withInbox rfl

theorem attempt (h : A.Sessions s s') (hh : A.Hosts host host') {e e' : Endpoint}
    (he : A.Endpoints e e') :
    Both A.Sessions (s.attempt host setup e) (s'.attempt host' setup e') := by
  have hr := hh.openShell he h.world s.handlers.length setup.settings.connectTimeout
  -- the inbox of an attempt knows the user of the endpoint but not the password
  have hasked : A.Sessions
      { s with
        inbox := s.inbox.connecting e.user setup.settings.superuser setup.settings.passwordCue
        handlers := s.handlers ++ [s.inbox.generation + 1] }
      { s' with
        inbox := s.inbox.connecting e.user setup.settings.superuser setup.settings.passwordCue
        handlers := s.handlers ++ [s.inbox.generation + 1] } :=
    { h with inbox := rfl, handlers := rfl }
  have hopening := (hasked.note (.cons (.opening s.handlers.length he
    setup.settings.connectTimeout) .nil)).absorb setup.width hr
  rw [Session.attempt, Session.attempt, ← h.handlers, ← h.inbox, ← he.user]
  dsimp only [Inbox.connecting] at hopening ⊢
  rw [← hr.failure]
  split_ifs
  · exact ⟨rfl, hopening⟩
  · have hopened := hopening.noteSame [.opened s.handlers.length]
    obtain ⟨waited, t, t', hx, hx', ht⟩ := (hopened.waitForPrompt setup.width
      (hh.await hopened.world (some setup.settings.connectTimeout))).exists_eq
    rw [hx, hx']
    cases waited with
    | ready =>
      have hsettled := ht.pause setup hh .settling
      refine ⟨rfl, { hsettled with channel := rfl, endpoint := .some he, inbox := ?_ }⟩
      dsimp only
      rw [hsettled.inbox]
    | closed reason => exact ⟨rfl, (ht.pause setup hh .dropping).close setup hh _⟩
    | expired => exact ⟨rfl, (ht.pause setup hh .dropping).close setup hh _⟩

theorem attempts (h : A.Sessions s s') (hh : A.Hosts host host') {e e' : Endpoint}
    (he : A.Endpoints e e') (left number : Nat) :
    Both A.Sessions (Session.attempts host setup e left number s)
      (Session.attempts host' setup e' left number s') := by
  induction left generalizing s s' number with
  | zero => exact ⟨rfl, h⟩
  | succ left ih =>
    have hannounced : A.Sessions (s.announceAttempt host setup number)
        (s'.announceAttempt host' setup number) := by
      rw [Session.announceAttempt, Session.announceAttempt]
      split_ifs
      · exact h
      · exact (h.say _).pause setup hh .retrying
    obtain ⟨success, t, t', hx, hx', ht⟩ := (hannounced.attempt setup hh he).exists_eq
    rw [Session.attempts, Session.attempts, hx, hx']
    cases success with
    | true => exact ⟨rfl, ht⟩
    | false => exact ih ht (number + 1)

theorem connect (h : A.Sessions s s') (hh : A.Hosts host host') {e e' : Endpoint}
    (he : A.Endpoints e e') :
    Both A.Sessions (s.connect host setup e) (s'.connect host' setup e') := by
  rw [Session.connect, Session.connect]
  obtain ⟨hx, hx'⟩ | ⟨current, current', hx, hx', hcurrent⟩ := rel_cases h.endpoint
  · rw [hx, hx', ← he.host]
    obtain ⟨success, t, t', ht, ht', hrest⟩ := (h.attempts setup hh he
      (max setup.settings.connectAttempts 1) 1).exists_eq
    dsimp only
    rw [ht, ht']
    cases success with
    | true => exact ⟨rfl, hrest.say _⟩
    | false => exact ⟨rfl, hrest.reset.say _⟩
  · rw [hx, hx']
    exact ⟨congrArg (fun name => some (Failure.alreadyConnected name)) hcurrent.host, h⟩

/-! ## Sending

Whether the password is written depends on the line sent and on what arrives. -/

theorem collect (h : A.Sessions s s') : Both A.Sessions s.collect s'.collect := by
  rw [Session.collect, Session.collect, h.inbox]
  exact ⟨rfl, h.withInbox rfl⟩

theorem awaitOutput (h : A.Sessions s s') (hh : A.Hosts host host') :
    Both A.Sessions (s.awaitOutput host setup) (s'.awaitOutput host' setup) := by
  obtain ⟨waited, t, t', hx, hx', ht⟩ :=
    (h.waitForPrompt setup.width (hh.await h.world none)).exists_eq
  rw [Session.awaitOutput, Session.awaitOutput, hx, hx']
  cases waited with
  | ready =>
    have hcollected := (ht.pause setup hh .collecting).collect
    exact ⟨congrArg Sent.output hcollected.value, hcollected.state⟩
  | closed reason => exact ⟨rfl, ht⟩
  | expired => exact ⟨rfl, ht⟩

theorem answerCue (h : A.Sessions s s') (hh : A.Hosts host host') (connection : Nat)
    {password password' : String} (hp : A.Texts password password') :
    Both A.Sessions (s.answerCue host setup connection password)
      (s'.answerCue host' setup connection password') := by
  obtain ⟨found, t, t', hx, hx', ht⟩ := (h.waitForCue setup.width
    (hh.await h.world (some setup.settings.cueTimeout))).exists_eq
  rw [Session.answerCue, Session.answerCue, hx, hx']
  cases found with
  -- the only write whose text is not the same in both runs
  | true => exact (ht.pause setup hh .answering).enter setup hh connection hp
  | false => exact ⟨rfl, ht.pause setup hh .resuming⟩

theorem sendThrough (h : A.Sessions s s') (hh : A.Hosts host host') (connection : Nat)
    {password password' : String} (hp : A.Texts password password') (text : String) :
    Both A.Sessions (s.sendThrough host setup connection password text)
      (s'.sendThrough host' setup connection password' text) := by
  have hbegun := (h.withInbox (congrArg (fun b : Inbox =>
    b.sending text (contains text setup.settings.sudoMarker)) h.inbox)).noteSame [.sending text]
  obtain ⟨failure, t, t', hx, hx', ht⟩ :=
    (hbegun.enter setup hh connection (.same text)).exists_eq
  rw [Session.sendThrough, Session.sendThrough, hx, hx']
  cases failure with
  | some cause => exact ⟨rfl, ht⟩
  | none =>
    dsimp only
    split_ifs
    · obtain ⟨failure, u, u', hy, hy', hu⟩ :=
        (ht.answerCue setup hh connection hp).exists_eq
      rw [hy, hy']
      cases failure with
      | some cause => exact ⟨rfl, hu⟩
      | none => exact hu.awaitOutput setup hh
    · exact ht.awaitOutput setup hh

theorem send (h : A.Sessions s s') (hh : A.Hosts host host') (text : String) :
    Both A.Sessions (s.send host setup text) (s'.send host' setup text) := by
  rw [Session.send, Session.send, h.channel, h.inbox]
  obtain ⟨hx, hx'⟩ | ⟨e, e', hx, hx', he⟩ := rel_cases h.endpoint
  · rw [hx, hx']
    exact ⟨rfl, h⟩
  · rw [hx, hx']
    cases s'.channel with
    | none => exact ⟨rfl, h⟩
    | some connection =>
      cases s'.inbox.streamError with
      | some reason => exact ⟨rfl, h⟩
      | none => exact h.sendThrough setup hh connection he.password (trimmed text)

/-! ## Fixed-row mode and closing -/

theorem enterRedraw (h : A.Sessions s s') (hh : A.Hosts host host') (row : Option Nat) :
    Both A.Sessions (s.enterRedraw host setup row) (s'.enterRedraw host' setup row) := by
  rw [Session.enterRedraw, Session.enterRedraw, h.isConnected_eq]
  split_ifs
  · have hdrawn := (h.noteSame [.shown .clear]).pause setup hh .drawing
    refine ⟨rfl, hdrawn.withInbox ?_⟩
    exact congrArg (fun b : Inbox =>
      { b with redraw := Session.fixedRows (max (row.getD setup.anchorRow) 1) }) hdrawn.inbox
  · exact ⟨rfl, h⟩

theorem exitRedraw (h : A.Sessions s s') : A.Sessions s.exitRedraw s'.exitRedraw := by
  rw [Session.exitRedraw, Session.exitRedraw, h.inbox]
  exact h.withInbox rfl

theorem disconnect (h : A.Sessions s s') (hh : A.Hosts host host') :
    Both A.Sessions (s.disconnect host setup) (s'.disconnect host' setup) := by
  have hleft : A.Sessions { s with channel := none } { s' with channel := none } :=
    { h with channel := rfl }
  rw [Session.disconnect, Session.disconnect, h.channel]
  cases s'.channel with
  | none => exact ⟨rfl, hleft.withoutEndpoint⟩
  | some connection =>
    have hflushed := (hleft.flush setup hh connection).state
    have hclosed := hflushed.close setup hh connection
    exact ⟨rfl, hclosed.withoutEndpoint.reset.say _⟩

end Sessions

end Twins

end ScriptedShell
