/-
# When the password is typed

The password answers a request that was heard since the send began, with no prompt before it.  A
prompt can still come between the request and the answer, and then the password is typed into a
shell that is back at its prompt.  `SendRun.answersBeforePrompt_iff` says exactly when this does not
happen: the wait must not find the request and the prompt at once, and no prompt may arrive in the
moment before the password is written.
-/
import Mathlib
import ScriptedShell.Proofs.Remote.SendRun

namespace ScriptedShell.Remote.Session

open Inbox Text

variable {σ : Type} (host : Host σ) (setup : Setup)

/-- Whether no prompt is heard in a trace before a password is written to a connection. -/
def AnswersBeforePrompt (connection : Nat) (password : String) (acts : List Activity) : Prop :=
  acts.Pairwise fun earlier later =>
    later = .wrote connection (password ++ "\r") → heardAs .prompt earlier = none

instance (connection : Nat) (password : String) (acts : List Activity) :
    Decidable (AnswersBeforePrompt connection password acts) :=
  inferInstanceAs (Decidable (acts.Pairwise _))

/-- The session when a send has found the request for the password and is about to answer it, if
the send comes that far. -/
def answering? (s : Session σ) (text : String) : Option (Session σ) :=
  match s.channel, s.inbox.streamError with
  | some connection, none => s.asked? host setup connection (trimmed text)
  | _, _ => none

/-! ## Traces with and without an answer -/

section Traces

variable {connection : Nat} {password : String} {x y z acts : List Activity}

/-- Without prompts in them, activities are lines heard for other kinds or none. -/
theorem heardAs_eq_none {kind : LineKind} (h : linesHeard kind acts = []) :
    ∀ a ∈ acts, heardAs kind a = none := List.filterMap_eq_nil_iff.mp h

/-- Where nothing is written there is no answer. -/
theorem answersBeforePrompt_of_not_mem (h : ∀ c text, .wrote c text ∉ acts) :
    AnswersBeforePrompt connection password acts :=
  List.pairwise_of_forall_mem_list fun _ _ _ hlater heq => absurd (heq ▸ hlater) (h _ _)

/-- An activity that is no prompt does not matter at the front. -/
theorem answersBeforePrompt_cons {a : Activity} (ha : heardAs .prompt a = none) :
    AnswersBeforePrompt connection password (a :: acts) ↔
      AnswersBeforePrompt connection password acts := by
  rw [AnswersBeforePrompt, List.pairwise_cons]
  exact ⟨fun h => h.2, fun h => ⟨fun _ _ _ => ha, h⟩⟩

/-- With one answer, it comes before any prompt when no prompt is heard up to it. -/
theorem answersBeforePrompt_append_iff (hx : ∀ c text, .wrote c text ∉ x)
    (hz : ∀ c text, .wrote c text ∉ z) :
    AnswersBeforePrompt connection password (x ++ .wrote connection (password ++ "\r") :: z) ↔
      linesHeard .prompt x = [] := by
  rw [AnswersBeforePrompt, List.pairwise_append]
  constructor
  · rintro ⟨-, -, h⟩
    exact List.filterMap_eq_nil_iff.mpr fun a ha => h a ha _ List.mem_cons_self rfl
  · intro h
    refine ⟨answersBeforePrompt_of_not_mem hx, ?_, fun a ha _ _ _ => heardAs_eq_none h a ha⟩
    exact (answersBeforePrompt_cons rfl).mpr (answersBeforePrompt_of_not_mem hz)

end Traces

/-! ## Runs with and without an answer -/

section Runs

variable {host setup} {s t : Session σ} {acts : List Activity} {sent : Sent}

/-- Nothing is written while deliveries come in. -/
theorem Delivers.not_mem_wrote {width : Nat} (h : Delivers width s acts t) (c : Nat)
    (text : String) : .wrote c text ∉ acts := h.arrives.not_mem_of_told (.inr ⟨c, text, rfl⟩)

/-- Nothing is written after the last write. -/
theorem Finish.not_mem_wrote (h : Finish setup s acts sent t) (c : Nat) (text : String) :
    .wrote c text ∉ acts := by
  cases h with
  | refused cause => exact List.not_mem_nil
  | ready h _ h' =>
    rw [List.mem_append, not_or]
    exact ⟨h.not_mem_wrote c text, h'.not_mem_wrote c text⟩
  | closed h _ => exact h.not_mem_wrote c text
  | unanswered h => exact h.not_mem_wrote c text

/-- Whether nothing keeps a session that is about to answer from doing so before any prompt: none
was seen when the wait ended, and none arrives until the password is written. -/
def AnswersInTime (host : Host σ) (setup : Setup) (w : Session σ) : Prop :=
  w.inbox.promptSeen = false ∧
    ∀ arrived, (w.pause host setup .answering).trace = w.trace ++ arrived →
      linesHeard .prompt arrived = []

/-- Whether a request for the password is heard in a trace, with no prompt before it. -/
def RequestFirst (acts : List Activity) : Prop :=
  ∃ before request after, acts = before ++ .heard request .cue :: after ∧
    linesHeard .prompt before = []

/-- A trace in which the request comes first goes on to be one. -/
theorem RequestFirst.of_quiet {a : Activity} (ha : heardAs .prompt a = none)
    (h : RequestFirst acts) : RequestFirst (a :: acts) := by
  obtain ⟨before, request, after, rfl, hbefore⟩ := h
  exact ⟨a :: before, request, after, rfl, (linesHeard_cons_of_none before ha).trans hbefore⟩

variable {connection : Nat} {password text : String} {asked : Option (Session σ)}

/-- In a run the password is written before any prompt exactly when it is answered in time. -/
theorem SendRun.answersBeforePrompt_iff
    (h : SendRun host setup s connection password text asked acts sent t) :
    AnswersBeforePrompt connection password acts ↔
      ∀ w, asked = some w → AnswersInTime host setup w := by
  cases h with
  | plain hx hfin =>
    simp only [reduceCtorEq, false_implies, implies_true, iff_true]
    refine answersBeforePrompt_of_not_mem fun c text' => ?_
    rw [List.mem_append, not_or]
    exact ⟨hx.not_mem_wrote c text', hfin.not_mem_wrote c text'⟩
  | declined hx _ hy hfin =>
    simp only [reduceCtorEq, false_implies, implies_true, iff_true]
    refine answersBeforePrompt_of_not_mem fun c text' => ?_
    rw [List.mem_append, List.mem_append, not_or, not_or]
    exact ⟨hx.not_mem_wrote c text', hy.not_mem_wrote c text', hfin.not_mem_wrote c text'⟩
  | @answered w t u x y z z' sent hx _ hy hz hfin =>
    have hseen : w.inbox.promptSeen = !(linesHeard .prompt x).isEmpty := hx.arrives.promptSeen_eq
    have hpause : ∀ arrived, (w.pause host setup .answering).trace = w.trace ++ arrived →
        arrived = y := fun arrived harr => List.append_cancel_left (harr.symm.trans hy.trace_eq)
    rw [← List.append_assoc, answersBeforePrompt_append_iff, linesHeard_append,
      List.append_eq_nil_iff]
    · constructor
      · rintro ⟨hnone, hlate⟩ w' hw
        cases hw
        refine ⟨by rw [hseen, hnone]; rfl, fun arrived harr => ?_⟩
        rw [hpause arrived harr, hlate]
      · intro hin
        obtain ⟨hnone, hlate⟩ := hin w rfl
        refine ⟨?_, hlate y hy.trace_eq⟩
        simpa [hseen] using hnone
    · intro c text'
      rw [List.mem_append, not_or]
      exact ⟨hx.not_mem_wrote c text', hy.not_mem_wrote c text'⟩
    · intro c text'
      rw [List.mem_append, not_or]
      exact ⟨hz.not_mem_wrote c text', hfin.not_mem_wrote c text'⟩

/-- A session that is about to answer has heard a request since the line was written, and no
prompt before that. -/
theorem SendRun.requestFirst {w : Session σ}
    (h : SendRun host setup s connection password text (some w) acts sent t) :
    ∃ heard, w.trace = s.trace ++ .sending text :: .wrote connection (text ++ "\r") :: heard ∧
      RequestFirst heard := by
  cases h with
  | @answered _ t u x y z z' sent hx hcue hy hz hfin =>
    have hheard : linesHeard .cue x ≠ [] := by
      have hseen : w.inbox.cueSeen = !(linesHeard .cue x).isEmpty := hx.arrives.cueSeen_eq
      simpa [hcue] using hseen
    refine ⟨x, ?_, (hx.arrives.cue_first hheard).2⟩
    rw [hx.trace_eq]
    simp [note, begun]

end Runs

/-! ## The main statement -/

/-- **The password is typed before any prompt exactly when it is answered in time.**  In the trace
of a send through a connection, no prompt is heard before the password is written if and only if,
whenever the send comes to answer a request, the wait has not found a prompt as well and none
arrives until the password is written.  Whenever it comes that far, a request has been heard since
the send began, with no prompt before it. -/
theorem answersBeforePrompt_send_iff (s : Session σ) {endpoint : Endpoint} {connection : Nat}
    (hendpoint : s.endpoint = some endpoint) (hchannel : s.channel = some connection)
    (text : String) :
    ∃ acts, (s.send host setup text).2.trace = s.trace ++ acts ∧
      (AnswersBeforePrompt connection endpoint.password acts ↔
        ∀ w, s.answering? host setup text = some w → AnswersInTime host setup w) ∧
      ∀ w, s.answering? host setup text = some w →
        ∃ heard, w.trace = s.trace ++ heard ∧ RequestFirst heard := by
  rw [send, answering?, hendpoint, hchannel]
  cases s.inbox.streamError with
  | some reason =>
    refine ⟨[], (List.append_nil _).symm, ?_, ?_⟩
    · exact ⟨fun _ w hw => (nomatch hw), fun _ => List.Pairwise.nil⟩
    · exact fun w hw => nomatch hw
  | none =>
    obtain ⟨acts, hrun⟩ :=
      sendRun_sendThrough host setup s connection endpoint.password (trimmed text)
    refine ⟨_, hrun.trace_eq, ?_, fun w hw => ?_⟩
    · rw [answersBeforePrompt_cons rfl, answersBeforePrompt_cons rfl]
      exact hrun.answersBeforePrompt_iff
    · dsimp only at hw
      rw [hw] at hrun
      obtain ⟨heard, htrace, hfirst⟩ := hrun.requestFirst
      exact ⟨_, htrace, (hfirst.of_quiet rfl).of_quiet rfl⟩

/-- A session whose host asks for the password of a privileged command, and goes on when it is
typed. -/
def askedOnce : Session HostScript :=
  connectedTo
    [{ line := "sudo id"
       play := HostScript.playText ["sudo id\r\n[sudo] password for deploy: "] },
      { line := "hunter2", play := HostScript.playText ["\r\nuid=0(root)\r\ndeploy@box:~$ "] }]

/-- A privileged command whose request is answered: the password is typed, and in time. -/
theorem answersBeforePrompt_askedOnce :
    askedOnce.endpoint = some scriptedEndpoint ∧ askedOnce.channel = some 0 ∧
      ∃ acts, (askedOnce.send scripted scriptedSetup "sudo id").2.trace =
          askedOnce.trace ++ acts ∧
        (AnswersBeforePrompt 0 "hunter2" acts ↔
          ∀ w, askedOnce.answering? scripted scriptedSetup "sudo id" = some w →
            AnswersInTime scripted scriptedSetup w) ∧
        ∀ w, askedOnce.answering? scripted scriptedSetup "sudo id" = some w →
          ∃ heard, w.trace = askedOnce.trace ++ heard ∧ RequestFirst heard := by
  have hendpoint : askedOnce.endpoint = some scriptedEndpoint := by decide +kernel
  have hchannel : askedOnce.channel = some 0 := by decide +kernel
  exact ⟨hendpoint, hchannel,
    answersBeforePrompt_send_iff scripted scriptedSetup askedOnce hendpoint hchannel "sudo id"⟩

/-- A session whose host prints a line that reads like a request for the password, and is back at
its prompt at once. -/
def askedInVain : Session HostScript :=
  connectedTo
    [{ line := "sudo id"
       play := HostScript.playText
        ["sudo id\r\n[sudo] password for deploy:\r\nuid=0(root)\r\ndeploy@box:~$ "] }]

/-- **The password can be typed into a shell that is back at its prompt.**  The request and the
prompt come in one chunk, the wait finds the request, and the shell prints the password. -/
theorem password_typed_at_prompt :
    askedInVain.endpoint = some scriptedEndpoint ∧ askedInVain.channel = some 0 ∧
      ∃ acts, (askedInVain.send scripted scriptedSetup "sudo id").2.trace =
          askedInVain.trace ++ acts ∧
        ¬ AnswersBeforePrompt 0 "hunter2" acts ∧
        .shown (.line "hunter2") ∈ acts := by
  refine ⟨by decide +kernel, by decide +kernel,
    [.sending "sudo id", .wrote 0 "sudo id\r", .heard "sudo id" .echo,
      .heard "[sudo] password for deploy:" .cue, .heard "uid=0(root)" .output,
      .shown (.line "uid=0(root)"), .heard "deploy@box:~$" .prompt, .flushed 0,
      .wrote 0 "hunter2\r", .heard "hunter2" .output, .shown (.line "hunter2"),
      .heard "deploy@box:~$" .prompt, .flushed 0], ?_, ?_, ?_⟩ <;> decide +kernel

end ScriptedShell.Remote.Session
