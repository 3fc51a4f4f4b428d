/-
# What a send returns

A send forgets the output and the prompt that were known before it began.  What it returns is
therefore read off the lines heard since then: the output between the last two prompts, or before
the prompt when there is one only.  Outside fixed-row mode the console is told of exactly the
output and the failures of the stream.
-/
import Mathlib
import ScriptedShell.Proofs.Remote.SendRun

namespace ScriptedShell.Remote

open Text Terminal

/-! ## Output between prompts -/

/-- Without a prompt, output is added to what is known. -/
theorem foldl_gather_of_no_prompt {acts : List Activity} (h : linesHeard .prompt acts = [])
    (queue completed : List String) :
    acts.foldl gather (queue, completed) = (queue ++ linesHeard .output acts, completed) := by
  induction acts generalizing queue with
  | nil => simp
  | cons a acts ih =>
    have ha : heardAs .prompt a = none := List.filterMap_eq_nil_iff.mp h a List.mem_cons_self
    have hrest : linesHeard .prompt acts = [] := by rwa [linesHeard_cons_of_none acts ha] at h
    cases a with
    | heard line kind =>
      cases kind with
      | prompt => simp [heardAs] at ha
      | output =>
        rw [List.foldl_cons, gather, ih hrest, linesHeard_cons_heard, if_pos rfl,
          List.append_assoc, List.singleton_append]
      | echo => exact ih hrest queue
      | cue => exact ih hrest queue
    | _ => exact ih hrest queue

/-- A trace with a prompt falls apart at the last one. -/
theorem exists_last_prompt {acts : List Activity} (h : linesHeard .prompt acts ≠ []) :
    ∃ before prompt after, acts = before ++ .heard prompt .prompt :: after ∧
      linesHeard .prompt after = [] := by
  induction acts with
  | nil => exact absurd rfl h
  | cons a acts ih =>
    by_cases hrest : linesHeard .prompt acts = []
    · rw [linesHeard, List.filterMap_cons] at h
      cases a with
      | heard line kind =>
        cases kind with
        | prompt => exact ⟨[], line, acts, rfl, hrest⟩
        | _ => exact absurd hrest h
      | _ => exact absurd hrest h
    · obtain ⟨before, prompt, after, rfl, hafter⟩ := ih hrest
      exact ⟨a :: before, prompt, after, rfl, hafter⟩

/-- Whether lines are the output of a trace between its last two prompts, or before its only
one. -/
def IsAnswer (acts : List Activity) (lines : List String) : Prop :=
  ∃ before answer prompt after, acts = before ++ answer ++ .heard prompt .prompt :: after ∧
    (before = [] ∨ ∃ init earlier, before = init ++ [.heard earlier .prompt]) ∧
    linesHeard .prompt answer = [] ∧ linesHeard .prompt after = [] ∧
    lines = linesHeard .output answer

/-- What is gathered as the output before the last prompt is the output between the last two. -/
theorem isAnswer_gather (acts : List Activity) (h : linesHeard .prompt acts ≠ [])
    (completed : List String) : IsAnswer acts (acts.foldl gather ([], completed)).2 := by
  obtain ⟨front, prompt, after, rfl, hafter⟩ := exists_last_prompt h
  rw [List.foldl_append, List.foldl_cons, gather, foldl_gather_of_no_prompt hafter]
  by_cases hfront : linesHeard .prompt front = []
  · refine ⟨[], front, prompt, after, rfl, .inl rfl, hfront, hafter, ?_⟩
    rw [foldl_gather_of_no_prompt hfront]
    rfl
  · obtain ⟨before, earlier, answer, rfl, hanswer⟩ := exists_last_prompt hfront
    refine ⟨before ++ [.heard earlier .prompt], answer, prompt, after, by simp,
      .inr ⟨before, earlier, rfl⟩, hanswer, hafter, ?_⟩
    rw [List.foldl_append, List.foldl_cons, gather, foldl_gather_of_no_prompt hanswer]
    rfl

namespace Inbox

/-! ## Records of what was heard -/

/-- What the activities noted say about an inbox: they carry its output, each line fits its kind,
the console is told of them, and a prompt is seen only if one was heard. -/
structure Records (b : Inbox) (acts : List Activity) (b' : Inbox) : Prop where
  gathered : (b'.queue, b'.completed) = acts.foldl gather (b.queue, b.completed)
  fits : ∀ line kind, .heard line kind ∈ acts → IsLine line ∧ b.Fits line kind
  shown : b.redraw.active = false → shownEntries acts = acts.filterMap announced?
  heard : b'.promptSeen = true → b.promptSeen = true ∨ linesHeard .prompt acts ≠ []
  fits_eq : b'.Fits = b.Fits
  active_eq : b'.redraw.active = b.redraw.active

namespace Records

variable {width : Nat} {b b' c : Inbox} {acts more : List Activity}

/-- Deliveries are recorded. -/
theorem of_arrives (h : Arrives width b acts b') : Records b acts b' where
  gathered := h.gathered
  fits _ _ hheard := h.fits hheard
  shown := h.shownEntries_eq
  heard hseen := by
    rw [h.promptSeen_eq, Bool.or_eq_true] at hseen
    exact hseen.imp_right fun hheard hnil => by simp [hnil] at hheard
  fits_eq := by
    obtain ⟨-, -, huser, hsuperuser, hcue, hsent⟩ := h.setup_eq
    funext line kind
    cases kind <;> simp only [Fits, huser, hsuperuser, hcue, hsent]
  active_eq := h.active_eq

/-- A write is recorded. -/
theorem wrote (b : Inbox) (connection : Nat) (text : String) :
    Records b [.wrote connection text] b where
  gathered := rfl
  fits _ _ hheard := by simp at hheard
  shown _ := rfl
  heard := .inl
  fits_eq := rfl
  active_eq := rfl

/-- Records go on. -/
theorem trans (h : Records b acts b') (h' : Records b' more c) : Records b (acts ++ more) c where
  gathered := by rw [List.foldl_append, ← h.gathered, ← h'.gathered]
  fits line kind hheard := by
    rcases List.mem_append.mp hheard with hheard | hheard
    · exact h.fits line kind hheard
    · rw [← h.fits_eq]
      exact h'.fits line kind hheard
  shown hplain := by
    rw [shownEntries, List.filterMap_append, List.filterMap_append, ← h.shown hplain,
      ← h'.shown (h.active_eq.trans hplain)]
    rfl
  heard hseen := by
    rw [linesHeard_append]
    rcases h'.heard hseen with hseen | hheard
    · exact (h.heard hseen).imp_right fun hheard hnil => hheard (List.append_eq_nil_iff.mp hnil).1
    · exact .inr fun hnil => hheard (List.append_eq_nil_iff.mp hnil).2
  fits_eq := h'.fits_eq.trans h.fits_eq
  active_eq := h'.active_eq.trans h.active_eq

/-- No prompt being seen, and no request being awaited, is recorded without a trace. -/
theorem lower (b : Inbox) (seen awaiting : Bool) (hseen : seen = true → b.promptSeen = true) :
    Records b [] { b with promptSeen := seen, awaitingCue := awaiting } where
  gathered := rfl
  fits _ _ hheard := by simp at hheard
  shown _ := rfl
  heard h := .inl (hseen h)
  fits_eq := rfl
  active_eq := rfl

end Records

end Inbox

namespace Session

open Inbox

variable {σ : Type} {host : Host σ} {setup : Setup} {s t : Session σ} {acts : List Activity}

/-! ## Records of a send -/

/-- A send that returns output has recorded it, with a prompt. -/
theorem Finish.records {sent : Sent} {lines : List String}
    (h : Finish setup s acts sent t) (hsent : sent = .output lines) :
    ∃ b, Records s.inbox acts b ∧ lines = b.completed ∧
      (s.inbox.promptSeen = true ∨ linesHeard .prompt acts ≠ []) := by
  cases h with
  | refused cause => cases hsent
  | @ready t u x y hx hseen hy =>
    cases hsent
    have hfirst := Records.of_arrives hx.arrives
    have hlower : Records t.inbox [] { t.inbox with promptSeen := false } :=
      .lower t.inbox false t.inbox.awaitingCue nofun
    refine ⟨u.inbox, hfirst.trans (hlower.trans (.of_arrives hy.arrives)), rfl, ?_⟩
    rw [linesHeard_append]
    exact (hfirst.heard hseen).imp_right fun hheard hnil =>
      hheard (List.append_eq_nil_iff.mp hnil).1
  | closed _ _ => cases hsent
  | unanswered _ => cases hsent

/-- From the inbox that a send begins with, a run that returns output has recorded it, with a
prompt. -/
theorem SendRun.records {connection : Nat} {password text : String} {asked : Option (Session σ)}
    {lines : List String}
    (h : SendRun host setup s connection password text asked acts (.output lines) t) :
    ∃ b, Records (s.begun setup text).inbox (.wrote connection (text ++ "\r") :: acts) b ∧
      lines = b.completed ∧ linesHeard .prompt acts ≠ [] := by
  have hwrote := Records.wrote (s.begun setup text).inbox connection (text ++ "\r")
  -- every run is recorded up to its end, where a prompt must have been seen
  suffices hend : ∃ (x y : List Activity) (u : Session σ) (b : Inbox),
      acts = x ++ y ∧ Records (s.begun setup text).inbox x u.inbox ∧ Records u.inbox y b ∧
        lines = b.completed ∧ (u.inbox.promptSeen = true ∨ linesHeard .prompt y ≠ []) by
    obtain ⟨x, y, u, b, rfl, hx, hy, hlines, hseen⟩ := hend
    refine ⟨b, hwrote.trans (hx.trans hy), hlines, fun hnil => ?_⟩
    rw [linesHeard_append, List.append_eq_nil_iff] at hnil
    rcases hseen with hseen | hheard
    · exact (hx.heard hseen).elim (fun h => nomatch h) fun hheard => hheard hnil.1
    · exact hheard hnil.2
  cases h with
  | plain hx hfin =>
    obtain ⟨b, hb, hlines, hseen⟩ := hfin.records rfl
    exact ⟨_, _, _, b, rfl, .of_arrives hx.arrives, hb, hlines, hseen⟩
  | @declined w u _ x y z _ hx _ hy hfin =>
    obtain ⟨b, hb, hlines, hseen⟩ := hfin.records rfl
    have hlower : Records w.inbox [] w.giveUpCue.inbox :=
      .lower w.inbox w.inbox.promptSeen false id
    exact ⟨x ++ y, z, u, b, (List.append_assoc _ _ _).symm,
      (Records.of_arrives hx.arrives).trans (hlower.trans (.of_arrives hy.arrives)), hb, hlines,
      hseen⟩
  | @answered w u _ x y z z' _ hx _ hy hz hfin =>
    obtain ⟨b, hb, hlines, hseen⟩ := hfin.records rfl
    have hanswer := Records.wrote (w.pause host setup .answering).inbox connection
      (password ++ "\r")
    exact ⟨x ++ (y ++ .wrote connection (password ++ "\r") :: z), z', u, b, by simp,
      (Records.of_arrives hx.arrives).trans
        ((Records.of_arrives hy.arrives).trans (hanswer.trans (.of_arrives hz.arrives))),
      hb, hlines, hseen⟩

/-! ## The main statement -/

/-- **What a send returns.**  When a send returns lines, they are the output heard since it began
between the last two prompts, or before the prompt when there is one only.  Outside fixed-row mode
the console is told of the output and of failures of the stream, each once and in order, and of
nothing else.  What counts as output or as a prompt is decided for each line by what it is. -/
theorem send_output (host : Host σ) (setup : Setup) (s : Session σ) (text : String)
    {lines : List String} (hsent : (s.send host setup text).1 = .output lines)
    (hplain : s.inbox.redraw.active = false) :
    ∃ acts, (s.send host setup text).2.trace = s.trace ++ .sending (trimmed text) :: acts ∧
      (∀ line kind, .heard line kind ∈ acts →
        IsLine line ∧ { s.inbox with lastSent := some (trimmed text) }.Fits line kind) ∧
      shownEntries acts = acts.filterMap announced? ∧ IsAnswer acts lines := by
  rw [send] at hsent ⊢
  split at hsent
  · next endpoint connection hendpoint hchannel =>
    cases herror : s.inbox.streamError with
    | some reason =>
      rw [herror] at hsent
      cases hsent
    | none =>
      rw [herror] at hsent
      obtain ⟨acts, hrun⟩ :=
        sendRun_sendThrough host setup s connection endpoint.password (trimmed text)
      dsimp only at hsent ⊢
      rw [hsent] at hrun
      obtain ⟨b, hrecords, hlines, hheard⟩ := hrun.records
      refine ⟨_, hrun.trace_eq, fun line kind hmem => ?_, hrecords.shown hplain, ?_⟩
      · obtain ⟨hline, hfits⟩ := hrecords.fits line kind hmem
        cases kind <;> exact ⟨hline, hfits⟩
      · have hanswer :=
          isAnswer_gather (.wrote connection (trimmed text ++ "\r") :: acts) hheard []
        have hcompleted : b.completed = _ := congrArg Prod.snd hrecords.gathered
        rw [hlines, hcompleted]
        exact hanswer
  · cases hsent

/-- A session whose host is back at its prompt twice for one command. -/
def promptedTwice : Session HostScript :=
  connectedTo
    [{ line := "make"
       play := HostScript.playText
        ["make\r\none\r\ndeploy@box:~$ \r\n", "make\r\ntwo\r\ndeploy@box:~$ "] }]

/-- With two prompts, the output before the first one is shown and not returned. -/
theorem send_output_promptedTwice :
    (promptedTwice.send scripted scriptedSetup "make").1 = .output ["two"] ∧
      promptedTwice.inbox.redraw.active = false ∧
      ∃ acts, (promptedTwice.send scripted scriptedSetup "make").2.trace =
          promptedTwice.trace ++ .sending "make" :: acts ∧
        (∀ line kind, .heard line kind ∈ acts →
          IsLine line ∧ { promptedTwice.inbox with lastSent := some "make" }.Fits line kind) ∧
        shownEntries acts = acts.filterMap announced? ∧ IsAnswer acts ["two"] := by
  have hsent : (promptedTwice.send scripted scriptedSetup "make").1 = .output ["two"] := by
    decide +kernel
  have hplain : promptedTwice.inbox.redraw.active = false := by decide +kernel
  have htext : trimmed "make" = "make" := by decide +kernel
  have h := send_output scripted scriptedSetup promptedTwice "make" hsent hplain
  rw [htext] at h
  exact ⟨hsent, hplain, h⟩

end Session

end ScriptedShell.Remote
