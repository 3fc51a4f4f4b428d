/-
# Waiting for a request for the password

A line that reads like a request for the password is only swallowed while one is waited for.  A
send begins to wait when its line is privileged, and gives up when it is done; but when its line
cannot be written it returns at once and leaves the session waiting.  `awaitingCue_run_iff` says
that there is no other way to be left waiting, and that a session that does not wait writes every
line of output to the console, whatever it reads like.
-/
import Mathlib
import ScriptedShell.Proofs.Remote.Chunks
import ScriptedShell.Proofs.Remote.Holding
import ScriptedShell.Proofs.Remote.Stale

namespace ScriptedShell.Remote

open Text Terminal

/-! ## Waiting in a trace -/

/-- Whether nothing in a trace ends a wait for the request for the password: neither the request
nor a prompt is heard, and no other line is sent. -/
structure WaitsOn (acts : List Activity) : Prop where
  cue : linesHeard .cue acts = []
  prompt : linesHeard .prompt acts = []
  sending : ∀ text, .sending text ∉ acts

namespace WaitsOn

variable {x y : List Activity}

/-- Nothing ends a wait where nothing happens. -/
theorem nil : WaitsOn [] := ⟨rfl, rfl, fun _ => List.not_mem_nil⟩

/-- A wait goes on in a trace when it does in both of its parts. -/
theorem append_iff : WaitsOn (x ++ y) ↔ WaitsOn x ∧ WaitsOn y := by
  constructor
  · rintro ⟨hcue, hprompt, hsending⟩
    rw [linesHeard_append, List.append_eq_nil_iff] at hcue hprompt
    simp only [List.mem_append, not_or] at hsending
    exact ⟨⟨hcue.1, hprompt.1, fun text => (hsending text).1⟩,
      ⟨hcue.2, hprompt.2, fun text => (hsending text).2⟩⟩
  · rintro ⟨hx, hy⟩
    refine ⟨?_, ?_, fun text => ?_⟩
    · rw [linesHeard_append, hx.cue, hy.cue, List.append_nil]
    · rw [linesHeard_append, hx.prompt, hy.prompt, List.append_nil]
    · rw [List.mem_append, not_or]
      exact ⟨hx.sending text, hy.sending text⟩

end WaitsOn

namespace Inbox

section Arrives

variable {width : Nat} {b b' : Inbox} {acts : List Activity}

/-- No line is sent while deliveries come in. -/
theorem Arrives.not_mem_sending (h : Arrives width b acts b') (text : String) :
    .sending text ∉ acts := by
  induction h with
  | done b => exact List.not_mem_nil
  | hold bytes _ ih => exact ih
  | @line b b' acts line _ _ ih =>
    rw [List.mem_cons, List.mem_append, not_or, not_or]
    refine ⟨nofun, fun hshown => ?_, ih⟩
    obtain ⟨entry, heq⟩ := shown_of_mem_display hshown
    cases heq
  | broke cause _ ih => simpa using ih
  | call a ha _ ih => obtain ⟨c, rfl | rfl | rfl⟩ := ha <;> simpa using ih

/-- While deliveries come in, an inbox waits on exactly as long as nothing ends the wait. -/
theorem Arrives.awaitingCue_iff (h : Arrives width b acts b') :
    b'.awaitingCue = true ↔ b.awaitingCue = true ∧ WaitsOn acts := by
  have hends : b'.awaitingCue = true ↔
      b.awaitingCue = true ∧ linesHeard .cue acts = [] ∧ linesHeard .prompt acts = [] := by
    induction h with
    | done b => simp
    | hold bytes _ ih => exact ih
    | @line b b' acts text _ _ ih =>
      rw [ih, linesHeard_cons_heard, linesHeard_cons_heard, linesHeard_append, linesHeard_append,
        linesHeard_display, linesHeard_display]
      cases b.classify text <;> simp [afterLine, afterPrompt, afterOutput]
    | broke cause _ ih => exact ih
    | call a ha _ ih => obtain ⟨c, rfl | rfl | rfl⟩ := ha <;> exact ih
  rw [hends]
  exact and_congr_right fun _ =>
    ⟨fun hheard => ⟨hheard.1, hheard.2, h.not_mem_sending⟩,
      fun hwaits => ⟨hwaits.cue, hwaits.prompt⟩⟩

end Arrives

/-! ## Lines written to the console -/

/-- Whether an entry of the console writes a line of output, below the prompt in fixed-row mode. -/
def Writes (b : Inbox) (width : Nat) (line : String) (entry : Entry) : Prop :=
  if b.redraw.active then ∃ row, entry = .row row (fitToWidth line width) else entry = .line line

/-- Whether all of some lines are written to the console in a trace, in their order. -/
def WritesAll (b : Inbox) (width : Nat) (lines : List String) (acts : List Activity) : Prop :=
  ∃ entries, entries.Sublist (shownEntries acts) ∧ List.Forall₂ (b.Writes width) lines entries

/-- The lines of some texts that are neither blank, nor the line that was sent, nor prompts. -/
def outputOf (b : Inbox) (texts : List (List Char)) : List String :=
  (texts.map fun text => String.ofList (trim text)).filter fun line =>
    line ≠ "" ∧ b.lastSent ≠ some line ∧ ¬ isPromptLine line b.user b.superuser

section Written

variable {width : Nat} {b b' : Inbox}

/-- What is told apart from output, and how it is written, stays while deliveries come in. -/
theorem Arrives.outputOf_eq {acts : List Activity} (h : Arrives width b acts b')
    (texts : List (List Char)) :
    b'.outputOf texts = b.outputOf texts ∧ b'.Writes width = b.Writes width := by
  obtain ⟨-, -, huser, hsuperuser, -, hlast⟩ := h.setup_eq
  constructor
  · rw [outputOf, outputOf, huser, hsuperuser, hlast]
  · funext line entry
    rw [Writes, Writes, h.active_eq]

/-- Lines written in one trace and in the next. -/
theorem WritesAll.append {lines more : List String} {x y : List Activity}
    (h : b.WritesAll width lines x) (h' : b.WritesAll width more y) :
    b.WritesAll width (lines ++ more) (x ++ y) := by
  obtain ⟨entries, hentries, hwrites⟩ := h
  obtain ⟨others, hothers, hwrites'⟩ := h'
  refine ⟨entries ++ others, ?_, List.rel_append hwrites hwrites'⟩
  rw [shownEntries_append]
  exact hentries.append hothers

/-- Nothing needs to be written for no lines. -/
theorem writesAll_nil (b : Inbox) (width : Nat) (acts : List Activity) :
    b.WritesAll width [] acts := ⟨[], List.nil_sublist _, .nil⟩

/-- Where no request is waited for, a line that is neither the one sent nor a prompt is output. -/
theorem classify_eq_output {line : String} (h : b.awaitingCue = false)
    (hecho : b.lastSent ≠ some line) (hprompt : ¬ isPromptLine line b.user b.superuser) :
    b.classify line = .output := by
  rw [classify, if_neg hecho, h, Bool.false_and, if_neg Bool.false_ne_true, if_neg hprompt]

/-- A line is written where an entry that writes it is shown. -/
theorem writesAll_singleton {line : String} {entry : Entry} {acts : List Activity}
    (hshown : entry ∈ shownEntries acts) (hwrites : b.Writes width line entry) :
    b.WritesAll width [line] acts :=
  ⟨[entry], List.singleton_sublist.mpr hshown, .cons hwrites .nil⟩

/-- A line of output is written. -/
theorem writesAll_display (b : Inbox) (width : Nat) (line : String) :
    b.WritesAll width [line] (.heard line .output :: b.display width line .output) := by
  rw [display]
  split_ifs with hactive
  · have hwrites : b.Writes width line (.row b.redraw.nextRow (fitToWidth line width)) := by
      rw [Writes, if_pos hactive]
      exact ⟨_, rfl⟩
    exact writesAll_singleton List.mem_cons_self hwrites
  · have hwrites : b.Writes width line (.line line) := by rw [Writes, if_neg hactive]
    exact writesAll_singleton List.mem_cons_self hwrites

/-- Where no request is waited for, a line that counts as output is written. -/
theorem handleLine_writes (h : b.awaitingCue = false) (text : List Char) :
    b.WritesAll width (b.outputOf [text]) (b.handleLine width text).2 := by
  rw [handleLine, outputOf, List.map_singleton]
  generalize String.ofList (trim text) = line
  by_cases hline : line ≠ "" ∧ b.lastSent ≠ some line ∧ ¬ isPromptLine line b.user b.superuser
  · obtain ⟨hblank, hecho, hprompt⟩ := hline
    have hnot : ¬ line.isEmpty = true := fun hempty => hblank (String.isEmpty_iff.mp hempty)
    rw [List.filter_cons_of_pos (by simp [hblank, hecho, hprompt]), List.filter_nil]
    dsimp only
    rw [if_neg hnot, classify_eq_output h hecho hprompt]
    exact writesAll_display b width line
  · rw [List.filter_cons_of_neg (by simpa using hline)]
    exact writesAll_nil b width _

/-- Where no request is waited for, all lines that count as output are written. -/
theorem handleLines_writes (h : b.awaitingCue = false) (texts : List (List Char)) :
    b.WritesAll width (b.outputOf texts) (b.handleLines width texts).2 := by
  induction texts generalizing b with
  | nil => exact writesAll_nil b width _
  | cons text texts ih =>
    have hfirst : Arrives width b _ _ := arrives_handleLine b text
    have hstill : (b.handleLine width text).1.awaitingCue = false := by
      rw [← Bool.not_eq_true, hfirst.awaitingCue_iff, h]
      simp
    obtain ⟨houtput, hwrites⟩ := hfirst.outputOf_eq texts
    have hrest := ih hstill
    rw [houtput, WritesAll, hwrites] at hrest
    have hsplit : b.outputOf (text :: texts) = b.outputOf [text] ++ b.outputOf texts := by
      rw [outputOf, ← List.singleton_append, List.map_append, List.filter_append]
      rfl
    rw [hsplit]
    exact (handleLine_writes h text).append hrest

/-- Where no request is waited for, all lines of a chunk that count as output are written. -/
theorem takeIn_writes (h : b.awaitingCue = false) (bytes : List UInt8) :
    b.WritesAll width (b.outputOf (linesOf (cutAtLastBreak (b.pending ++ bytes)).1))
      (b.takeIn width bytes).2 := by
  have hsame : b.takeIn width bytes = { b with pending := b.pending }.takeIn width bytes := rfl
  have hlines : b.WritesAll width _ _ := handleLines_writes h
    (linesOf (cutAtLastBreak (b.pending ++ bytes)).1)
  rw [hsame, takeIn_eq, andThen, ← List.append_nil (b.outputOf _)]
  exact hlines.append (writesAll_nil b width _)

end Written

end Inbox

namespace Session

open Inbox

variable {σ : Type}

/-! ## Calm sessions -/

/-- Whether a session that does not wait for a request comes to one that does not either. -/
def StaysCalm (s t : Session σ) : Prop :=
  s.inbox.awaitingCue = false → t.inbox.awaitingCue = false

/-- Deliveries do not make a session wait. -/
theorem Delivers.staysCalm {width : Nat} {s t : Session σ} {acts : List Activity}
    (h : Delivers width s acts t) : StaysCalm s t := by
  intro hcalm
  rw [← Bool.not_eq_true, h.arrives.awaitingCue_iff, hcalm]
  simp

/-- A session stays calm along deliveries and waits. -/
theorem alongWaits_staysCalm (setup : Setup) : AlongWaits setup (@StaysCalm σ) where
  refl _ hcalm := hcalm
  trans h h' hcalm := h' (h hcalm)
  delivers := Delivers.staysCalm
  lower _ hcalm := hcalm
  giveUpCue _ _ := rfl

/-- A request that was heard is waited for no longer. -/
theorem Delivers.calm_of_cueSeen {width : Nat} {s t : Session σ} {acts : List Activity}
    (h : Delivers width s acts t) (hbefore : s.inbox.cueSeen = false)
    (hafter : t.inbox.cueSeen = true) : t.inbox.awaitingCue = false := by
  rw [← Bool.not_eq_true, h.arrives.awaitingCue_iff]
  rintro ⟨-, hwaits⟩
  rw [h.arrives.cueSeen_eq, hbefore, hwaits.cue] at hafter
  cases hafter

section Calls

variable (host : Host σ) (setup : Setup) {s t : Session σ}

/-- A session that is about to send a line waits for a request when the line is privileged. -/
theorem awaitingCue_begun (s : Session σ) (text : String) :
    (s.begun setup text).inbox.awaitingCue = contains text setup.settings.sudoMarker := rfl

/-- A session waits for a request while a line is entered as long as nothing ends the wait. -/
theorem awaitingCue_entered_iff {connection : Nat} {text : String} {acts : List Activity}
    (h : Delivers setup.width ((s.begun setup text).note [.wrote connection (text ++ "\r")])
      acts t) :
    t.inbox.awaitingCue = true ↔
      contains text setup.settings.sudoMarker = true ∧ WaitsOn acts := by
  rw [← awaitingCue_begun setup s text]
  exact h.arrives.awaitingCue_iff

/-- However a send ends after its last write, it does not make the session wait for a request. -/
theorem Finish.staysCalm {acts : List Activity} {sent : Sent} (h : Finish setup s acts sent t) :
    StaysCalm s t := by
  cases h with
  | refused cause => exact id
  | ready hx _ hy => exact fun hcalm => hy.staysCalm (hx.staysCalm hcalm)
  | closed hx _ => exact hx.staysCalm
  | unanswered hx => exact hx.staysCalm

/-- A session that has waited for a request and perhaps answered it waits no longer. -/
theorem calm_answerCue {o : Session σ} {x : List Activity} (hx : Delivers setup.width o x s)
    (hcue : o.inbox.cueSeen = false) (connection : Nat) (password : String) :
    (s.answerCue host setup connection password).2.inbox.awaitingCue = false := by
  obtain ⟨y, w, hy, ⟨hseen, heq⟩ | ⟨-, heq⟩⟩ :=
    waitForCue_spec setup.width s (host.await (some setup.settings.cueTimeout) s.world)
  · have hcalm := (hx.trans hy).calm_of_cueSeen hcue hseen
    obtain ⟨z, hz⟩ := delivers_pause host setup w .answering
    obtain ⟨z', hz'⟩ :=
      delivers_enter host setup (w.pause host setup .answering) connection password
    rw [answerCue, heq]
    exact hz'.staysCalm (hz.staysCalm hcalm)
  · obtain ⟨z, hz⟩ := delivers_pause host setup w.giveUpCue .resuming
    rw [answerCue, heq]
    exact hz.staysCalm rfl

/-- Sending a line through a connection leaves the session waiting for a request exactly when the
line is privileged and cannot be entered, and the wait is not over by then. -/
theorem awaitingCue_sendThrough_iff (s : Session σ) (connection : Nat) (password text : String) :
    (s.sendThrough host setup connection password text).2.inbox.awaitingCue = true ↔
      ∃ cause t, (s.begun setup text).enter host setup connection text = (some cause, t) ∧
        t.inbox.awaitingCue = true := by
  rw [sendThrough_eq]
  obtain ⟨x, hx⟩ := delivers_enter host setup (s.begun setup text) connection text
  rcases hent : (s.begun setup text).enter host setup connection text with ⟨_ | cause, t⟩
  · rw [hent] at hx
    refine iff_of_false ?_ (by rintro ⟨cause, t, heq, -⟩; cases heq)
    rw [Bool.not_eq_true]
    dsimp only
    split_ifs with hprivileged
    · have hcalm := calm_answerCue host setup hx rfl connection password
      rcases hans : t.answerCue host setup connection password with ⟨_ | cause, u⟩
      · rw [hans] at hcalm
        obtain ⟨y, hfin⟩ := finish_awaitOutput host setup u
        exact hfin.staysCalm setup hcalm
      · rwa [hans] at hcalm
    · obtain ⟨y, hfin⟩ := finish_awaitOutput host setup t
      exact hfin.staysCalm setup (hx.staysCalm (Bool.eq_false_iff.mpr hprivileged))
  · simp

/-- Whether a send leaves a session waiting for a request: its line is privileged and cannot be
entered, and nothing ends the wait until the send returns. -/
structure LeavesWaiting (s : Session σ) (text : String) : Prop where
  intact : s.inbox.streamError = none
  privileged : contains (trimmed text) setup.settings.sudoMarker = true
  refused : ∃ connection cause acts, s.channel = some connection ∧
    ((s.begun setup (trimmed text)).enter host setup connection (trimmed text)).1 = some cause ∧
    (s.send host setup text).2.trace =
      s.trace ++ .sending (trimmed text) :: .wrote connection (trimmed text ++ "\r") :: acts ∧
    WaitsOn acts

/-- A send on an intact stream leaves a session waiting in no other way. -/
theorem Open.awaitingCue_send_iff {c : Nat} (h : Open s c) (hintact : s.inbox.streamError = none)
    (text : String) :
    (s.send host setup text).2.inbox.awaitingCue = true ↔ LeavesWaiting host setup s text := by
  obtain ⟨endpoint, -, hsend⟩ := h.send_of_intact host setup hintact text
  obtain ⟨acts, hacts⟩ := delivers_enter host setup (s.begun setup (trimmed text)) c (trimmed text)
  rw [hsend, awaitingCue_sendThrough_iff]
  constructor
  · rintro ⟨cause, t, hent, hwaits⟩
    rw [hent] at hacts
    obtain ⟨hprivileged, hacts'⟩ := (awaitingCue_entered_iff setup hacts).mp hwaits
    refine ⟨hintact, hprivileged, c, cause, acts, h.channel_eq, by rw [hent], ?_, hacts'⟩
    have hreturned : (s.sendThrough host setup c endpoint.password (trimmed text)).2 = t := by
      rw [sendThrough_eq, hent]
    rw [hsend, hreturned, hacts.trace_eq]
    simp [begun, note]
  · rintro ⟨-, hprivileged, c', cause, acts', hc', hcause, htrace, hwaits⟩
    obtain rfl := Option.some.inj (h.channel_eq.symm.trans hc')
    rcases hent : (s.begun setup (trimmed text)).enter host setup c (trimmed text) with ⟨failure, t⟩
    rw [hent] at hcause hacts
    have hreturned : (s.sendThrough host setup c endpoint.password (trimmed text)).2 = t := by
      rw [sendThrough_eq, hent]
      simp only at hcause
      rw [hcause]
    rw [hsend, hreturned, hacts.trace_eq] at htrace
    have hsame : acts = acts' := by simpa [begun, note] using htrace
    rw [← hsame] at hwaits
    exact ⟨cause, t, by rw [← hcause],
      (awaitingCue_entered_iff setup hacts).mpr ⟨hprivileged, hwaits⟩⟩

end Calls

/-! ## Waiting from step to step -/

/-- Whether a session that waits for a request goes on waiting, up to another one, exactly when
nothing that is noted ends the wait. -/
def WaitsAlong (s t : Session σ) : Prop :=
  ∃ acts, t.trace = s.trace ++ acts ∧
    (t.inbox.awaitingCue = true ↔ s.inbox.awaitingCue = true ∧ WaitsOn acts)

namespace WaitsAlong

variable {s t u : Session σ}

/-- A session that has gone on waiting goes on waiting. -/
theorem trans (h : WaitsAlong s t) (h' : WaitsAlong t u) : WaitsAlong s u := by
  obtain ⟨x, htrace, hx⟩ := h
  obtain ⟨y, htrace', hy⟩ := h'
  refine ⟨x ++ y, by rw [htrace', htrace, List.append_assoc], ?_⟩
  rw [hy, hx, WaitsOn.append_iff, and_assoc]

/-- While deliveries come in. -/
theorem of_delivers {width : Nat} {acts : List Activity} (h : Delivers width s acts t) :
    WaitsAlong s t := ⟨acts, h.trace_eq, h.arrives.awaitingCue_iff⟩

/-- When the console is written to. -/
theorem display (s : Session σ) (entry : Entry) : WaitsAlong s (s.display entry) :=
  ⟨[.shown entry], rfl, (and_iff_left ⟨rfl, rfl, by simp⟩).symm⟩

/-- When neither the trace nor the wait is touched. -/
theorem within (htrace : t.trace = s.trace) (hwait : t.inbox.awaitingCue = s.inbox.awaitingCue) :
    WaitsAlong s t :=
  ⟨[], by rw [htrace, List.append_nil], by rw [hwait, and_iff_left WaitsOn.nil]⟩

/-- Whether a session goes on waiting is seen from its trace. -/
theorem iff (h : WaitsAlong s t) :
    t.inbox.awaitingCue = true ↔
      s.inbox.awaitingCue = true ∧ ∃ acts, t.trace = s.trace ++ acts ∧ WaitsOn acts := by
  obtain ⟨acts, htrace, hwaits⟩ := h
  rw [hwaits]
  refine and_congr_right fun _ => ⟨fun hacts => ⟨acts, htrace, hacts⟩, ?_⟩
  rintro ⟨acts', htrace', hacts'⟩
  rwa [List.append_cancel_left (htrace.symm.trans htrace')]

end WaitsAlong

section Runs

variable (host : Host σ) (setup : Setup) {s : Session σ}

/-- A session without a connection does not wait for a request. -/
theorem Shut.calm (h : Shut s) : s.inbox.awaitingCue = false := by rw [h.inbox_eq]

/-- Connecting leaves a session without a connection not waiting for a request. -/
theorem Shut.calm_connect (h : Shut s) (endpoint : Endpoint) :
    (s.connect host setup endpoint).2.inbox.awaitingCue = false := by
  have hattempt : ∀ t : Session σ, True →
      (∃ u, t.attempt host setup endpoint = (true, u) ∧ u.inbox.awaitingCue = false) ∨
        ∃ u, t.attempt host setup endpoint = (false, u) ∧ True := by
    intro t _
    obtain ⟨u, hcalm, heq | heq⟩ :=
      along_attempt host setup (alongWaits_staysCalm setup) t endpoint
    · exact .inr ⟨u, heq, trivial⟩
    · exact .inl ⟨_, heq, hcalm rfl⟩
  rcases connect_cases (fun _ _ => id) (fun _ => id) hattempt h.endpoint_eq trivial with
    ⟨t, heq, hcalm⟩ | ⟨t, cause, text, heq, -⟩
  · rw [heq]
    exact hcalm
  · rw [heq]
    rfl

/-- No step makes a session without a connection wait for a request. -/
theorem Shut.calm_step (h : Shut s) (a : Step σ) :
    (s.step host setup a).inbox.awaitingCue = false := by
  cases a with
  | connect endpoint => exact h.calm_connect host setup endpoint
  | send text =>
    rw [step, send, h.endpoint_eq]
    exact h.calm
  | enterRedraw row =>
    rw [step, enterRedraw, isConnected, h.channel_eq]
    exact h.calm
  | exitRedraw => exact h.calm
  | disconnect => exact (Settled.disconnect host setup (.inl h)).calm
  | deliver d =>
    rw [step, h.deliver_eq]
    exact h.calm
  | elapse world => exact h.calm

/-- With a connection open, a session goes on waiting in every step that neither sends a line nor
disconnects. -/
theorem Open.waitsAlong_step {c : Nat} (h : Open s c) {a : Step σ} (hsend : ∀ text, a ≠ .send text)
    (hdisconnect : a ≠ .disconnect) : WaitsAlong s (s.step host setup a) := by
  cases a with
  | connect endpoint =>
    obtain ⟨current, hcurrent⟩ := Option.isSome_iff_exists.mp h.endpoint_isSome
    rw [step, connect, hcurrent]
    exact .within rfl rfl
  | send text => exact absurd rfl (hsend text)
  | enterRedraw row =>
    rw [step, enterRedraw]
    split_ifs
    · obtain ⟨x, hx⟩ := delivers_pause host setup (s.display .clear) .drawing
      exact (WaitsAlong.display s .clear).trans
        ((WaitsAlong.of_delivers hx).trans (.within rfl rfl))
    · exact .within rfl rfl
  | exitRedraw => exact .within rfl rfl
  | disconnect => exact absurd rfl hdisconnect
  | deliver d =>
    obtain ⟨acts, hd⟩ := delivers_deliver setup.width s d
    exact .of_delivers hd
  | elapse world => exact .within rfl rfl

/-- After a send a session waits for a request exactly when the send leaves it waiting, or it waited
before and nothing in the send ended the wait. -/
theorem Open.waits_send_iff {c : Nat} (h : Open s c) (text : String) :
    (s.send host setup text).2.inbox.awaitingCue = true ↔
      LeavesWaiting host setup s text ∨ (s.inbox.awaitingCue = true ∧
        ∃ acts, (s.send host setup text).2.trace = s.trace ++ acts ∧ WaitsOn acts) := by
  cases hreason : s.inbox.streamError with
  | some reason =>
    rw [h.send_of_failed host setup hreason]
    constructor
    · exact fun hwait => .inr ⟨hwait, [], (List.append_nil _).symm, .nil⟩
    · rintro (hleaves | ⟨hwait, -⟩)
      · cases hreason.symm.trans hleaves.intact
      · exact hwait
  | none =>
    rw [h.awaitingCue_send_iff host setup hreason]
    constructor
    · exact .inl
    · rintro (hleaves | ⟨-, acts, htrace, hwaits⟩)
      · exact hleaves
      · -- the line that is sent ends any earlier wait
        obtain ⟨sent, hsent, -, -, -, hfirst⟩ := send_spec host setup s text
        have hbegins := hfirst c ⟨by rw [h.channel_eq]; rfl, h.endpoint_isSome⟩ h.channel_eq hreason
        obtain rfl := List.append_cancel_left (hsent.symm.trans htrace)
        exact absurd (hbegins.subset List.mem_cons_self) (hwaits.sending _)

/-- **After a step a session waits for a request** exactly when the step is a send that leaves it
waiting, or it waited before and nothing in the step ended the wait. -/
theorem Settled.awaitingCue_step_iff (h : Settled s) (a : Step σ) :
    (s.step host setup a).inbox.awaitingCue = true ↔
      (∃ text, a = .send text ∧ LeavesWaiting host setup s text) ∨
        (s.inbox.awaitingCue = true ∧ a ≠ .disconnect ∧
          ∃ acts, (s.step host setup a).trace = s.trace ++ acts ∧ WaitsOn acts) := by
  rcases h with hshut | ⟨c, hopen⟩
  · rw [hshut.calm_step, hshut.calm]
    refine iff_of_false nofun ?_
    rintro (⟨text, -, hleaves⟩ | ⟨hwait, -⟩)
    · obtain ⟨c, cause, acts, hc, -⟩ := hleaves.refused
      rw [hshut.channel_eq] at hc
      cases hc
    · cases hwait
  · by_cases hdisconnect : a = .disconnect
    · subst hdisconnect
      have hcalm := (Settled.disconnect host setup (.inr ⟨c, hopen⟩)).calm
      rw [Session.step, hcalm]
      refine iff_of_false nofun ?_
      rintro (⟨text, heq, -⟩ | ⟨-, hnot, -⟩)
      · cases heq
      · exact hnot rfl
    · by_cases hsend : ∃ text, a = .send text
      · obtain ⟨text, rfl⟩ := hsend
        rw [Session.step, hopen.waits_send_iff host setup text]
        simp only [Step.send.injEq, exists_eq_left', ne_eq, hdisconnect, not_false_eq_true,
          true_and]
      · rw [(hopen.waitsAlong_step host setup (not_exists.mp hsend) hdisconnect).iff]
        constructor
        · rintro ⟨hwait, hacts⟩
          exact .inr ⟨hwait, hdisconnect, hacts⟩
        · rintro (⟨text, heq, -⟩ | ⟨hwait, -, hacts⟩)
          · exact absurd ⟨text, heq⟩ hsend
          · exact ⟨hwait, hacts⟩

/-- With a connection open, data that come in through it are taken in. -/
theorem Open.deliver_data {c : Nat} (h : Open s c) (width : Nat) (bytes : List UInt8) :
    (s.deliver width ⟨c, .data bytes⟩).trace = s.trace ++ (s.inbox.takeIn width bytes).2 := by
  rw [deliver, (h.current c).mpr rfl]
  dsimp only [accept, receive]
  rw [if_pos rfl]
  rfl

/-- Whether a send has left a new session waiting for a request in the course of some steps, and
since then it has not disconnected and nothing has ended the wait. -/
def LeftWaiting (world : σ) (steps : List (Step σ)) : Prop :=
  ∃ before text after acts, steps = before ++ .send text :: after ∧ .disconnect ∉ after ∧
    LeavesWaiting host setup (run host setup { world } before) text ∧
    (run host setup { world } steps).trace =
      (run host setup { world } (before ++ [.send text])).trace ++ acts ∧
    WaitsOn acts

/-- A session has been left waiting in the last step, or before it and the step has not ended the
wait. -/
theorem leftWaiting_append_iff (world : σ) (steps : List (Step σ)) (a : Step σ) :
    LeftWaiting host setup world (steps ++ [a]) ↔
      (∃ text, a = .send text ∧ LeavesWaiting host setup (run host setup { world } steps) text) ∨
        (LeftWaiting host setup world steps ∧ a ≠ .disconnect ∧
          ∃ acts, (run host setup { world } (steps ++ [a])).trace =
            (run host setup { world } steps).trace ++ acts ∧ WaitsOn acts) := by
  constructor
  · rintro ⟨before, text, after, acts, hsteps, hafter, hleaves, htrace, hwaits⟩
    rcases List.eq_nil_or_concat after with rfl | ⟨after, b, rfl⟩
    · obtain ⟨rfl, hlast⟩ := List.append_inj' hsteps rfl
      exact .inl ⟨text, List.singleton_inj.mp hlast, hleaves⟩
    · rw [List.concat_eq_append, ← List.cons_append, ← List.append_assoc] at hsteps
      obtain ⟨rfl, hlast⟩ := List.append_inj' hsteps rfl
      obtain rfl := List.singleton_inj.mp hlast
      simp only [List.concat_eq_append, List.mem_append, List.mem_singleton, not_or] at hafter
      -- what is noted since the send is noted up to the last step or in it
      obtain ⟨x, hx, -⟩ := grows_run host setup (run host setup { world } (before ++ [.send text]))
        after
      obtain ⟨y, hy, -⟩ := grows_step host setup
        (run host setup { world } (before ++ .send text :: after)) a
      rw [← run_append, List.append_assoc, List.singleton_append] at hx
      have hlater : (run host setup { world } (before ++ .send text :: after ++ [a])).trace =
          (run host setup { world } (before ++ .send text :: after)).trace ++ y := by
        rw [run_append]
        exact hy
      rw [hlater, hx, List.append_assoc] at htrace
      obtain rfl := List.append_cancel_left htrace
      obtain ⟨hwaitsx, hwaitsy⟩ := WaitsOn.append_iff.mp hwaits
      exact .inr ⟨⟨before, text, after, x, rfl, hafter.1, hleaves, hx, hwaitsx⟩, Ne.symm hafter.2,
        y, hlater, hwaitsy⟩
  · rintro (⟨text, rfl, hleaves⟩ | ⟨⟨before, text, after, x, rfl, hafter, hleaves, hx, hwaitsx⟩,
      hdisconnect, y, hy, hwaitsy⟩)
    · exact ⟨steps, text, [], [], rfl, List.not_mem_nil, hleaves, (List.append_nil _).symm, .nil⟩
    · refine ⟨before, text, after ++ [a], x ++ y, by simp, ?_, hleaves, ?_,
        WaitsOn.append_iff.mpr ⟨hwaitsx, hwaitsy⟩⟩
      · rw [List.mem_append, List.mem_singleton, not_or]
        exact ⟨hafter, Ne.symm hdisconnect⟩
      · rw [hy, hx, List.append_assoc]

/-- **After a run a session waits for a request** exactly when it has been left waiting. -/
theorem awaitingCue_iff_leftWaiting (world : σ) (steps : List (Step σ)) :
    (run host setup { world } steps).inbox.awaitingCue = true ↔
      LeftWaiting host setup world steps := by
  induction steps using List.reverseRecOn with
  | nil =>
    refine iff_of_false nofun ?_
    rintro ⟨before, text, after, acts, hsteps, -⟩
    exact List.append_ne_nil_of_right_ne_nil before (List.cons_ne_nil _ after) hsteps.symm
  | append_singleton steps a ih =>
    have hsettled : Settled (run host setup { world } steps) :=
      settled_run host setup (.inl (shut_new world)) steps
    have hlast : run host setup { world } (steps ++ [a]) =
        (run host setup { world } steps).step host setup a := run_append host setup _ steps [a]
    rw [leftWaiting_append_iff, ← ih, hlast]
    exact hsettled.awaitingCue_step_iff host setup a

end Runs

/-! ## The main statement -/

/-- **When a session waits for a request for the password between calls.**  After every run of a new
session, whatever its host does, it waits exactly when a send left it waiting, because its
privileged line could not be entered, and since then it has not disconnected, and neither a
request nor a prompt was heard and no other line was sent.  While it does not wait, every line that
comes in through the connection that is held and is neither blank, nor the line sent last, nor a
prompt, is written to the console, also one that reads like a request. -/
theorem awaitingCue_run_iff (host : Host σ) (setup : Setup) (world : σ) (steps : List (Step σ)) :
    let s := run host setup { world } steps
    (s.inbox.awaitingCue = true ↔ LeftWaiting host setup world steps) ∧
    (s.inbox.awaitingCue = false → ∀ c bytes, s.channel = some c →
      ∃ acts, (s.deliver setup.width ⟨c, .data bytes⟩).trace = s.trace ++ acts ∧
        s.inbox.WritesAll setup.width
          (s.inbox.outputOf (linesOf (cutAtLastBreak (s.inbox.pending ++ bytes)).1)) acts) := by
  intro s
  refine ⟨awaitingCue_iff_leftWaiting host setup world steps, ?_⟩
  intro hcalm c bytes hc
  have hsettled : Settled s := settled_run host setup (.inl (shut_new world)) steps
  exact ⟨_, (hsettled.open_of_channel hc).deliver_data setup.width bytes, takeIn_writes hcalm bytes⟩

/-- A line that reads like a request for the password. -/
def requestLine : String := "[sudo] password for deploy:"

/-- After a privileged command whose request was answered, a line that reads like a request is
written to the console. -/
theorem awaitingCue_run_iff_answered :
    let responses : List Response :=
      [{ line := "sudo id"
         play := HostScript.playText ["sudo id\r\n[sudo] password for deploy: "] },
        { line := "hunter2", play := HostScript.playText ["\r\nuid=0(root)\r\ndeploy@box:~$ "] }]
    let steps : List (Step HostScript) := [.connect scriptedEndpoint, .send "sudo id"]
    let s := run scripted scriptedSetup { world := { responses } } steps
    let bytes := (requestLine ++ "\r\n").toUTF8.toList
    ¬ LeftWaiting scripted scriptedSetup { responses } steps ∧
      s.inbox.awaitingCue = false ∧ s.channel = some 0 ∧
      ∃ acts, (s.deliver scriptedSetup.width ⟨0, .data bytes⟩).trace = s.trace ++ acts ∧
        s.inbox.WritesAll scriptedSetup.width [requestLine] acts := by
  intro responses steps
  obtain ⟨hwaits, hwrites⟩ := awaitingCue_run_iff scripted scriptedSetup { responses } steps
  dsimp only
  generalize hs : run scripted scriptedSetup { world := { responses } } steps = s
    at hwaits hwrites ⊢
  have hcalm : s.inbox.awaitingCue = false := by
    rw [← hs]
    decide +kernel
  have hchannel : s.channel = some 0 := by
    rw [← hs]
    decide +kernel
  have hlines : s.inbox.outputOf
      (linesOf (cutAtLastBreak (s.inbox.pending ++ (requestLine ++ "\r\n").toUTF8.toList)).1) =
        [requestLine] := by
    rw [← hs]
    decide +kernel
  rw [← hwaits, ← hlines, Bool.not_eq_true]
  exact ⟨hcalm, hcalm, hchannel, hwrites hcalm 0 _ hchannel⟩

/-- **A line can be swallowed while no privileged command waits.**  A privileged line cannot be
written, the send fails at once, and the next line that reads like a request for the password is
not written to the console, although it is neither the line sent last nor a prompt. -/
theorem request_swallowed_after_refusal :
    let responses : List Response := [{ line := "sudo id", writeError := some "boom" }]
    let before := run scripted scriptedSetup { world := { responses } } [.connect scriptedEndpoint]
    let s := run scripted scriptedSetup { world := { responses } }
      [.connect scriptedEndpoint, .send "sudo id"]
    (before.send scripted scriptedSetup "sudo id").1 = .failed (.writeFailed "boom") ∧
      s.channel = some 0 ∧ s.inbox.awaitingCue = true ∧
      s.inbox.outputOf [requestLine.toList] = [requestLine] ∧
      shownEntries (s.deliver scriptedSetup.width
          ⟨0, .data (requestLine ++ "\r\n").toUTF8.toList⟩).trace =
        shownEntries s.trace := by
  decide +kernel

end Session

end ScriptedShell.Remote
