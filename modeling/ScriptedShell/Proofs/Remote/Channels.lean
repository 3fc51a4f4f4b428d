/-
# Connections are closed once

A session that fails to connect, disconnects or is let go of closes the connection that it was
granted.  The books on a trace (`Books`) say which connection is open, and refuse a trace in which
a connection is asked for while another one is open, granted twice, or closed while it is not open.
The trace of every run is in order (`Ordered.run`), and what is expected of the opening and closing
of connections is read off the books (`Books.Balances`).
-/
import Mathlib
import ScriptedShell.Proofs.Remote.Talking

namespace ScriptedShell.Remote

/-! ## Books -/

/-- The books on the connections of a trace: a number that is larger than that of any connection
granted, and the connection that is open. -/
structure Books where
  bound : Nat := 0
  held : Option Nat := none
  deriving Repr, DecidableEq

namespace Books

/-- The books after one more activity, unless it is out of order. -/
def next (b : Books) : Activity → Option Books
  | .opening .. => if b.held = none then some b else none
  | .opened c => if b.held = none ∧ b.bound ≤ c then some ⟨c + 1, some c⟩ else none
  | .closed c => if b.held = some c then some { b with held := none } else none
  | _ => some b

/-- The books after a whole trace, unless something in it is out of order. -/
def keep (b : Books) (trace : List Activity) : Option Books := trace.foldlM next b

@[simp] theorem keep_nil (b : Books) : b.keep [] = some b := rfl

theorem keep_cons (b : Books) (a : Activity) (trace : List Activity) :
    b.keep (a :: trace) = (b.next a).bind fun b => b.keep trace := rfl

/-- The books are kept piece by piece. -/
theorem keep_append (b : Books) (x y : List Activity) :
    b.keep (x ++ y) = (b.keep x).bind fun b => b.keep y := List.foldlM_append

/-- Talk is always in order and changes nothing in the books. -/
theorem keep_of_isTalk (b : Books) {acts : List Activity} (h : ∀ a ∈ acts, IsTalk a) :
    b.keep acts = some b := by
  induction acts with
  | nil => rfl
  | cons a acts ih =>
    have hnext : b.next a = some b := by
      have ha : IsTalk a := h a List.mem_cons_self
      cases a <;> first | rfl | exact absurd ha id
    rw [keep_cons, hnext, Option.bind_some]
    exact ih fun d hd => h d (List.mem_cons_of_mem a hd)

/-! ### What the books say -/

/-- Whether books are those of a trace: the connection held is the one that has been granted and
not closed, and no connection has been granted twice. -/
structure Balances (b : Books) (trace : List Activity) : Prop where
  granted : ∀ c, trace.count (.opened c) ≤ 1
  balance : ∀ c, trace.count (.opened c) =
    trace.count (.closed c) + if b.held = some c then 1 else 0
  bounded : ∀ c, b.bound ≤ c → trace.count (.opened c) = 0

/-- The books of an empty trace are empty. -/
theorem Balances.nil : Balances {} [] := by
  constructor <;> intro c <;> simp

variable {b : Books} {trace : List Activity} {d : Nat}

/-- One more activity counts for itself only. -/
theorem count_concat (trace : List Activity) (a e : Activity) :
    (trace ++ [a]).count e = trace.count e + if a = e then 1 else 0 := by
  by_cases h : a = e <;> simp [h]

/-- A connection that is granted is in the books if its number is new and none was open. -/
theorem Balances.opened (h : Balances b trace) (hheld : b.held = none) (hbound : b.bound ≤ d) :
    Balances ⟨d + 1, some d⟩ (trace ++ [.opened d]) := by
  have hnew : trace.count (.opened d) = 0 := h.bounded d hbound
  constructor
  · intro c
    rw [count_concat]
    split_ifs with hcd
    · cases hcd
      omega
    · exact h.granted c
  · intro c
    have hbalance := h.balance c
    rw [hheld, if_neg nofun] at hbalance
    rw [count_concat, count_concat, hbalance]
    simp
  · intro c hc
    dsimp only at hc
    have hcd : Activity.opened d ≠ .opened c := by
      rintro ⟨⟩
      omega
    rw [count_concat, if_neg hcd, h.bounded c (by omega)]

/-- A connection that is closed is no longer open in the books. -/
theorem Balances.closed (h : Balances b trace) (hheld : b.held = some d) :
    Balances { b with held := none } (trace ++ [.closed d]) := by
  constructor
  · intro c
    rw [count_concat, if_neg nofun]
    exact h.granted c
  · intro c
    rw [count_concat, count_concat, h.balance c, hheld]
    by_cases hcd : d = c <;> simp [hcd]
  · intro c hc
    rw [count_concat, if_neg nofun]
    exact h.bounded c hc

/-- Any other activity changes nothing in the books. -/
theorem Balances.other (h : Balances b trace) {a : Activity} (hopened : ∀ c, a ≠ .opened c)
    (hclosed : ∀ c, a ≠ .closed c) : Balances b (trace ++ [a]) := by
  constructor
  · intro c
    rw [count_concat, if_neg (hopened c)]
    exact h.granted c
  · intro c
    rw [count_concat, count_concat, if_neg (hopened c), if_neg (hclosed c)]
    exact h.balance c
  · intro c hc
    rw [count_concat, if_neg (hopened c)]
    exact h.bounded c hc

/-- **The books go along with the trace.** -/
theorem Balances.next {b' : Books} {a : Activity} (h : Balances b trace)
    (hnext : b.next a = some b') : Balances b' (trace ++ [a]) := by
  cases a with
  | opened d =>
    rw [Books.next] at hnext
    split_ifs at hnext with hnone
    cases hnext
    exact h.opened hnone.1 hnone.2
  | closed d =>
    rw [Books.next] at hnext
    split_ifs at hnext with hheld
    cases hnext
    exact h.closed hheld
  | opening d endpoint timeout =>
    rw [Books.next] at hnext
    split_ifs at hnext
    cases hnext
    exact h.other nofun nofun
  | _ =>
    cases hnext
    exact h.other nofun nofun

/-- The books that are kept are those of the trace. -/
theorem balances_of_keep {b : Books} {trace : List Activity} (h : keep {} trace = some b) :
    Balances b trace := by
  induction trace using List.reverseRecOn generalizing b with
  | nil =>
    cases h
    exact .nil
  | append_singleton trace a ih =>
    rw [keep_append, Option.bind_eq_some_iff] at h
    obtain ⟨b', hkeep, hlast⟩ := h
    rw [keep_cons, Option.bind_eq_some_iff] at hlast
    obtain ⟨b'', hnext, hend⟩ := hlast
    cases hend
    exact (ih hkeep).next hnext

end Books

/-! ## Traces in order -/

/-- Whether a connection is open after a trace: it has been granted and not been closed. -/
def IsOpenAfter (trace : List Activity) (c : Nat) : Prop :=
  .opened c ∈ trace ∧ .closed c ∉ trace

/-- The connection that is open is the one in the books. -/
theorem Books.Balances.isOpenAfter_iff {b : Books} {trace : List Activity}
    (h : b.Balances trace) (c : Nat) : IsOpenAfter trace c ↔ b.held = some c := by
  have hbalance := h.balance c
  have hgranted := h.granted c
  rw [IsOpenAfter, ← List.count_pos_iff, ← List.count_eq_zero]
  split_ifs at hbalance with hheld
  · exact iff_of_true (by omega) hheld
  · exact iff_of_false (by omega) hheld

/-- Whether connections are opened and closed one by one in a trace, none is left open, and none
is closed twice. -/
structure ClosesEach (trace : List Activity) : Prop where
  /-- Every connection granted is granted once and closed once. -/
  once : ∀ c, .opened c ∈ trace → trace.count (.opened c) = 1 ∧ trace.count (.closed c) = 1
  /-- Only a connection that is open is closed. -/
  open_of_closed : ∀ before c after, trace = before ++ .closed c :: after → IsOpenAfter before c
  /-- At most one connection is open at any time. -/
  eq_of_open : ∀ before after, trace = before ++ after →
    ∀ c d, IsOpenAfter before c → IsOpenAfter before d → c = d
  /-- When a connection is asked for, every one granted before has been closed. -/
  none_open : ∀ before c endpoint timeout after,
    trace = before ++ .opening c endpoint timeout :: after → ∀ d, ¬ IsOpenAfter before d

/-- **A trace with books in which nothing is left open closes each connection once.** -/
theorem closesEach_of_keep {b : Books} {trace : List Activity} (h : Books.keep {} trace = some b)
    (hheld : b.held = none) : ClosesEach trace := by
  -- every front of the trace has books of its own, which accept what comes next
  have hfront : ∀ before after, trace = before ++ after →
      ∃ b' : Books, b'.Balances before ∧ b'.keep after = some b := by
    rintro before after rfl
    rw [Books.keep_append, Option.bind_eq_some_iff] at h
    obtain ⟨b', hkeep, hrest⟩ := h
    exact ⟨b', Books.balances_of_keep hkeep, hrest⟩
  have hbooks := Books.balances_of_keep h
  constructor
  · intro c hc
    have hgranted := hbooks.granted c
    have hbalance := hbooks.balance c
    rw [← List.count_pos_iff] at hc
    rw [hheld, if_neg nofun] at hbalance
    omega
  · intro before c after heq
    obtain ⟨b', hbefore, hrest⟩ := hfront before _ heq
    rw [hbefore.isOpenAfter_iff]
    by_contra hother
    simp [Books.keep_cons, Books.next, hother] at hrest
  · intro before after heq c d hc hd
    obtain ⟨b', hbefore, -⟩ := hfront before after heq
    rw [hbefore.isOpenAfter_iff] at hc hd
    exact Option.some.inj (hc.symm.trans hd)
  · intro before c endpoint timeout after heq d hd
    obtain ⟨b', hbefore, hrest⟩ := hfront before _ heq
    rw [hbefore.isOpenAfter_iff] at hd
    simp [Books.keep_cons, Books.next, hd] at hrest

/-! ## Sessions in order -/

/-- Whether a trace has books, in which a given connection or none is open and all numbers are
below a bound. -/
def InOrder (trace : List Activity) (bound : Nat) (held : Option Nat) : Prop :=
  ∃ b : Books, Books.keep {} trace = some b ∧ b.held = held ∧ b.bound ≤ bound

namespace InOrder

variable {trace trace' : List Activity} {bound : Nat} {held : Option Nat}

/-- Talk keeps a trace in order. -/
theorem grows (h : InOrder trace bound held) (hgrows : Grows IsTalk trace trace') :
    InOrder trace' bound held := by
  obtain ⟨b, hkeep, hheld, hbound⟩ := h
  obtain ⟨acts, rfl, hacts⟩ := hgrows
  refine ⟨b, ?_, hheld, hbound⟩
  rw [Books.keep_append, hkeep, Option.bind_some, Books.keep_of_isTalk b hacts]

/-- A larger bound is a bound. -/
theorem mono (h : InOrder trace bound held) {larger : Nat} (hle : bound ≤ larger) :
    InOrder trace larger held := by
  obtain ⟨b, hkeep, hheld, hbound⟩ := h
  exact ⟨b, hkeep, hheld, hbound.trans hle⟩

/-- A connection may be asked for when none is open. -/
theorem opening (h : InOrder trace bound none) (c : Nat) (endpoint : Endpoint)
    (timeout : Duration) : InOrder (trace ++ [.opening c endpoint timeout]) bound none := by
  obtain ⟨b, hkeep, hheld, hbound⟩ := h
  exact ⟨b, by simp [Books.keep_append, hkeep, Books.keep_cons, Books.next, hheld], hheld, hbound⟩

/-- A new connection may be granted when none is open. -/
theorem opened (h : InOrder trace bound none) :
    InOrder (trace ++ [.opened bound]) (bound + 1) (some bound) := by
  obtain ⟨b, hkeep, hheld, hbound⟩ := h
  refine ⟨⟨bound + 1, some bound⟩, ?_, rfl, le_rfl⟩
  simp [Books.keep_append, hkeep, Books.keep_cons, Books.next, hheld, hbound]

/-- The connection that is open may be closed. -/
theorem closed {c : Nat} (h : InOrder trace bound (some c)) :
    InOrder (trace ++ [.closed c]) bound none := by
  obtain ⟨b, hkeep, hheld, hbound⟩ := h
  refine ⟨{ b with held := none }, ?_, rfl, hbound⟩
  simp [Books.keep_append, hkeep, Books.keep_cons, Books.next, hheld]

end InOrder

namespace Session

variable {σ : Type}

/-- Whether a session holds the connection that is open in its trace, and no other one is. -/
def Ordered (s : Session σ) : Prop := InOrder s.trace s.handlers.length s.channel

/-- Talk keeps a session in order. -/
theorem Ordered.talks {s t : Session σ} (h : Ordered s) (htalks : Talks s t) : Ordered t := by
  rw [Ordered, htalks.channel_eq, htalks.handlers_eq]
  exact h.grows htalks.grows

section Steps

variable (host : Host σ) (setup : Setup) {s : Session σ}

/-- Closing the connection that is open, whether the session still holds it or not. -/
theorem ordered_close {connection : Nat} (hnone : s.channel = none)
    (h : InOrder s.trace s.handlers.length (some connection)) :
    Ordered (s.close host setup connection) := by
  have hclosed : Ordered (s.note [.closed connection]) := by
    rw [Ordered]
    change InOrder (s.trace ++ [.closed connection]) s.handlers.length s.channel
    rw [hnone]
    exact h.closed
  exact hclosed.talks (talks_absorb setup.width _ _)

/-- **An attempt to connect keeps a session in order**, and when it fails no connection is open. -/
theorem ordered_attempt (h : Ordered s) (hnone : s.channel = none) (endpoint : Endpoint) :
    Ordered (s.attempt host setup endpoint).2 ∧
      ((s.attempt host setup endpoint).1 = false →
        (s.attempt host setup endpoint).2.channel = none) := by
  have hanswered : Talks (s.dialed setup endpoint) (s.answered host setup endpoint) :=
    talks_absorb setup.width _ _
  have hchannel : (s.answered host setup endpoint).channel = none :=
    hanswered.channel_eq.trans hnone
  have hhandlers : (s.answered host setup endpoint).handlers.length = s.handlers.length + 1 := by
    rw [hanswered.handlers_eq]
    simp [dialed, note]
  have hasked : InOrder (s.answered host setup endpoint).trace s.handlers.length none := by
    rw [Ordered, hnone] at h
    exact (h.opening s.handlers.length endpoint setup.settings.connectTimeout).grows
      hanswered.grows
  rw [attempt_eq]
  split_ifs
  · refine ⟨?_, fun _ => hchannel⟩
    rw [Ordered, hchannel, hhandlers]
    exact hasked.mono (Nat.le_succ _)
  · dsimp only
    have hgranted := hasked.opened
    generalize htrace : (s.answered host setup endpoint).note [.opened s.handlers.length] = t
    have hwait := talks_waitForPrompt setup.width t
      (host.await (some setup.settings.connectTimeout) t.world)
    have hopened : InOrder t.trace t.handlers.length (some s.handlers.length) := by
      subst htrace
      change InOrder _ (s.answered host setup endpoint).handlers.length _
      rw [hhandlers]
      exact hgranted
    have hfree : t.channel = none := by
      subst htrace
      exact hchannel
    split
    · next u heq =>
      rw [heq] at hwait
      have hsettled := hwait.trans (talks_pause host setup u .settling)
      refine ⟨?_, fun hfailed => absurd hfailed.symm Bool.false_ne_true⟩
      rw [Ordered]
      dsimp only
      rw [hsettled.handlers_eq]
      exact hopened.grows hsettled.grows
    · next u hnot heq =>
      rw [heq] at hwait
      have hdropped := hwait.trans (talks_pause host setup u .dropping)
      have hgone : (u.pause host setup .dropping).channel = none :=
        hdropped.channel_eq.trans hfree
      refine ⟨ordered_close host setup hgone ?_, fun _ => ?_⟩
      · rw [hdropped.handlers_eq]
        exact hopened.grows hdropped.grows
      · exact (talks_absorb setup.width _ _).channel_eq.trans hgone

/-- Connecting keeps a session in order. -/
theorem ordered_connect (h : Ordered s) (hnone : s.endpoint = none → s.channel = none)
    (endpoint : Endpoint) : Ordered (s.connect host setup endpoint).2 := by
  have hsay : ∀ (t : Session σ) (text : String), Ordered t ∧ t.channel = none →
      Ordered (t.say text) ∧ (t.say text).channel = none :=
    fun t _ ht => ⟨ht.1.talks (.single t trivial), ht.2⟩
  have hpause : ∀ t : Session σ, Ordered t ∧ t.channel = none →
      Ordered (t.pause host setup .retrying) ∧
        (t.pause host setup .retrying).channel = none := by
    rintro t ⟨hordered, hfree⟩
    have htalks := talks_pause host setup t .retrying
    exact ⟨hordered.talks htalks, htalks.channel_eq.trans hfree⟩
  have hattempt : ∀ t : Session σ, Ordered t ∧ t.channel = none →
      (∃ u, t.attempt host setup endpoint = (true, u) ∧ Ordered u) ∨
        ∃ u, t.attempt host setup endpoint = (false, u) ∧ Ordered u ∧ u.channel = none := by
    rintro t ⟨hordered, hfree⟩
    have htried := ordered_attempt host setup hordered hfree endpoint
    rcases heq : t.attempt host setup endpoint with ⟨_ | _, u⟩
    · rw [heq] at htried
      exact .inr ⟨u, rfl, htried.1, htried.2 rfl⟩
    · rw [heq] at htried
      exact .inl ⟨u, rfl, htried.1⟩
  cases hendpoint : s.endpoint with
  | some current =>
    rw [connect, hendpoint]
    exact h
  | none =>
    rcases connect_cases hsay hpause hattempt hendpoint ⟨h, hnone hendpoint⟩ with
      ⟨t, heq, hordered⟩ | ⟨t, cause, text, heq, hordered, -⟩
    · rw [heq]
      exact hordered.talks (.single t trivial)
    · rw [heq]
      exact hordered.talks ((Talks.within t _ t.world).trans (.single _ trivial))

/-- Disconnecting keeps a session in order. -/
theorem ordered_disconnect (h : Ordered s) : Ordered (s.disconnect host setup).2 := by
  rw [disconnect]
  split
  · exact h
  · next connection hchannel =>
    have hflush := talks_flush host setup { s with channel := none } connection
    have hgone : ({ s with channel := none }.flush host setup connection).2.channel = none :=
      hflush.channel_eq
    have hclosed : Ordered (({ s with channel := none }.flush host setup connection).2.close host
        setup connection) := by
      refine ordered_close host setup hgone ?_
      rw [Ordered, hchannel] at h
      rw [hflush.handlers_eq]
      exact h.grows hflush.grows
    exact hclosed.grows (.single _ trivial)

/-- Letting go of a session leaves it in order, with no connection. -/
theorem ordered_release (h : Ordered s) :
    Ordered (s.release host setup) ∧ (s.release host setup).channel = none := by
  rw [release]
  split
  · next hnone => exact ⟨h, hnone⟩
  · next connection hchannel =>
    rw [Ordered, hchannel] at h
    refine ⟨ordered_close host setup rfl h, ?_⟩
    exact (talks_absorb setup.width _ _).channel_eq

/-- **Every step keeps a session in order.** -/
theorem Ordered.step (h : Ordered s) (hsettled : Settled s) (a : Step σ) :
    Ordered (s.step host setup a) := by
  cases a with
  | connect endpoint =>
    refine ordered_connect host setup h (fun hnone => ?_) endpoint
    rcases hsettled with hshut | ⟨c, hopen⟩
    · exact hshut.channel_eq
    · have hsome := hopen.endpoint_isSome
      rw [hnone] at hsome
      cases hsome
  | send text => exact h.talks (talks_send host setup s text)
  | enterRedraw row => exact h.talks (talks_enterRedraw host setup s row)
  | exitRedraw => exact h.talks (.within s _ s.world)
  | disconnect => exact ordered_disconnect host setup h
  | deliver d => exact h.talks (talks_deliver setup.width s d)
  | elapse world => exact h.talks (.within s s.inbox world)

/-- Every run keeps a session in order. -/
theorem Ordered.run (h : Ordered s) (hsettled : Settled s) (steps : List (Step σ)) :
    Ordered (s.run host setup steps) := by
  induction steps generalizing s with
  | nil => exact h
  | cons a steps ih => exact ih (h.step host setup hsettled a) (hsettled.step host setup a)

/-- A new session is in order. -/
theorem ordered_new (world : σ) : Ordered ({ world } : Session σ) := ⟨{}, rfl, rfl, le_rfl⟩

end Steps

/-! ## The main statement -/

/-- **No connection is leaked, and none is closed twice.**  Whatever a new session is made to do,
whatever its host answers and delivers, once it has been let go of each connection that it was
granted has been closed exactly once, and while it was open.  At no time are two connections open,
and whenever a connection is asked for, all that were granted before have been closed, those of
failed attempts among them. -/
theorem closesEach_release (host : Host σ) (setup : Setup) (world : σ) (steps : List (Step σ)) :
    ClosesEach ((run host setup { world } steps).release host setup).trace := by
  have hrun := (ordered_new world).run host setup (.inl (shut_new world)) steps
  obtain ⟨hreleased, hnone⟩ := ordered_release host setup hrun
  rw [Ordered, hnone] at hreleased
  obtain ⟨b, hkeep, hheld, -⟩ := hreleased
  exact closesEach_of_keep hkeep hheld

end Session

end ScriptedShell.Remote
