/-
# The runs of a send

A send notes its line, writes it, may answer a request for the password, and waits for the prompt;
deliveries come in at all times.  `SendRun` lists the ways in which this can go, with the
activities noted after the line has been written, and `sendRun_sendThrough` says that there are no
others.  Whatever is true of sends is proved by cases on it.
-/
import Mathlib
import ScriptedShell.Proofs.Remote.Delivery
import ScriptedShell.Remote.ScriptedHost

namespace ScriptedShell.Remote.Session

open Inbox Text

variable {σ : Type} (host : Host σ) (setup : Setup)

/-! ## Stages of a send -/

/-- The session when a line is about to be sent. -/
def begun (s : Session σ) (text : String) : Session σ :=
  { s with inbox := s.inbox.sending text (contains text setup.settings.sudoMarker) }.note
    [.sending text]

/-- The session when it has found the request for the password and is about to answer it, if
sending a line through a connection comes that far. -/
def asked? (s : Session σ) (connection : Nat) (text : String) : Option (Session σ) :=
  match (s.begun setup text).enter host setup connection text with
  | (some _, _) => none
  | (none, s) =>
    if contains text setup.settings.sudoMarker then
      match s.waitForCue setup.width (host.await (some setup.settings.cueTimeout) s.world) with
      | (true, s) => some s
      | (false, _) => none
    else none

/-! ## Runs -/

/-- How a send ends after its last write. -/
inductive Finish (s : Session σ) : List Activity → Sent → Session σ → Prop
  /-- The write has failed. -/
  | refused (cause : Failure) : Finish s [] (.failed cause) s
  /-- A prompt is seen, and the output before the last one is taken. -/
  | ready {t u : Session σ} {x y : List Activity} :
      Delivers setup.width s x t → t.inbox.promptSeen = true →
      Delivers setup.width { t with inbox := { t.inbox with promptSeen := false } } y u →
      Finish s (x ++ y) (.output u.inbox.completed) u.collect.2
  /-- The stream has failed. -/
  | closed {t : Session σ} {x : List Activity} {reason : String} :
      Delivers setup.width s x t → t.inbox.streamError = some reason →
      Finish s x (.failed (.streamClosed reason)) t
  /-- Nothing arrives any more. -/
  | unanswered {t : Session σ} {x : List Activity} :
      Delivers setup.width s x t → Finish s x .unanswered t

/-- How sending a line through a connection goes once the line is written, with the session that
is about to answer a request for the password, if there is one. -/
inductive SendRun (s : Session σ) (connection : Nat) (password text : String) :
    Option (Session σ) → List Activity → Sent → Session σ → Prop
  /-- No request for the password is waited for. -/
  | plain {t u : Session σ} {x y : List Activity} {sent : Sent} :
      Delivers setup.width ((s.begun setup text).note [.wrote connection (text ++ "\r")]) x t →
      Finish setup t y sent u →
      SendRun s connection password text none (x ++ y) sent u
  /-- A request is waited for and none is seen. -/
  | declined {w t u : Session σ} {x y z : List Activity} {sent : Sent} :
      Delivers setup.width ((s.begun setup text).note [.wrote connection (text ++ "\r")]) x w →
      w.inbox.cueSeen = false →
      Delivers setup.width w.giveUpCue y t → Finish setup t z sent u →
      SendRun s connection password text none (x ++ (y ++ z)) sent u
  /-- A request is seen, and answered after a moment. -/
  | answered {w t u : Session σ} {x y z z' : List Activity} {sent : Sent} :
      Delivers setup.width ((s.begun setup text).note [.wrote connection (text ++ "\r")]) x w →
      w.inbox.cueSeen = true →
      Delivers setup.width w y (w.pause host setup .answering) →
      Delivers setup.width
        ((w.pause host setup .answering).note [.wrote connection (password ++ "\r")]) z t →
      Finish setup t z' sent u →
      SendRun s connection password text (some w)
        (x ++ (y ++ .wrote connection (password ++ "\r") :: (z ++ z'))) sent u

/-- Waiting for the prompt and collecting the output finishes a send. -/
theorem finish_awaitOutput (s : Session σ) :
    ∃ acts, Finish setup s acts (s.awaitOutput host setup).1 (s.awaitOutput host setup).2 := by
  obtain ⟨x, t, h, ⟨hseen, heq⟩ | ⟨reason, hreason, heq⟩ | heq⟩ :=
    waitForPrompt_spec setup.width s (host.await none s.world)
  · rw [awaitOutput, heq]
    obtain ⟨y, h'⟩ := delivers_pause host setup
      { t with inbox := { t.inbox with promptSeen := false } } .collecting
    exact ⟨x ++ y, .ready h hseen h'⟩
  · rw [awaitOutput, heq]
    exact ⟨x, .closed h hreason⟩
  · rw [awaitOutput, heq]
    exact ⟨x, .unanswered h⟩

/-- Sending a line through a connection, in terms of its stages. -/
theorem sendThrough_eq (s : Session σ) (connection : Nat) (password text : String) :
    s.sendThrough host setup connection password text =
      match (s.begun setup text).enter host setup connection text with
      | (some cause, s) => (.failed cause, s)
      | (none, s) =>
        if contains text setup.settings.sudoMarker then
          match s.answerCue host setup connection password with
          | (some cause, s) => (.failed cause, s)
          | (none, s) => s.awaitOutput host setup
        else s.awaitOutput host setup := rfl

/-- Sending a line through a connection is one of the runs. -/
theorem sendRun_sendThrough (s : Session σ) (connection : Nat) (password text : String) :
    ∃ acts, SendRun host setup s connection password text (s.asked? host setup connection text)
      acts (s.sendThrough host setup connection password text).1
      (s.sendThrough host setup connection password text).2 := by
  obtain ⟨x, h⟩ := delivers_enter host setup (s.begun setup text) connection text
  rw [asked?, sendThrough_eq]
  rcases hent : (s.begun setup text).enter host setup connection text with ⟨_ | cause, t⟩
  · rw [hent] at h
    dsimp only
    split_ifs with hprivileged
    · obtain ⟨y, w, hw, ⟨hcue, heq⟩ | ⟨hcue, heq⟩⟩ :=
        waitForCue_spec setup.width t
          (host.await (some setup.settings.cueTimeout) t.world)
      · rw [answerCue, heq]
        obtain ⟨y', hpause⟩ := delivers_pause host setup w .answering
        obtain ⟨z, hans⟩ :=
          delivers_enter host setup (w.pause host setup .answering) connection password
        dsimp only
        rcases hent' : (w.pause host setup .answering).enter host setup connection password
          with ⟨_ | cause, v⟩
        · rw [hent'] at hans
          obtain ⟨z', hfin⟩ := finish_awaitOutput host setup v
          exact ⟨_, .answered (h.trans hw) hcue hpause hans hfin⟩
        · rw [hent'] at hans
          exact ⟨_, .answered (h.trans hw) hcue hpause hans (.refused cause)⟩
      · rw [answerCue, heq]
        obtain ⟨y', hpause⟩ := delivers_pause host setup w.giveUpCue .resuming
        obtain ⟨z, hfin⟩ := finish_awaitOutput host setup (w.giveUpCue.pause host setup .resuming)
        exact ⟨_, .declined (h.trans hw) hcue hpause hfin⟩
    · obtain ⟨y, hfin⟩ := finish_awaitOutput host setup t
      exact ⟨_, .plain h hfin⟩
  · rw [hent] at h
    exact ⟨_, .plain h (.refused cause)⟩

/-! ## Traces of runs -/

section Traces

variable {host setup} {s t : Session σ} {acts : List Activity} {sent : Sent}

/-- The trace only grows while a send ends. -/
theorem Finish.trace_eq (h : Finish setup s acts sent t) : t.trace = s.trace ++ acts := by
  cases h with
  | refused cause => exact (List.append_nil _).symm
  | ready h _ h' => rw [collect, h'.trace_eq, h.trace_eq, List.append_assoc]
  | closed h _ => exact h.trace_eq
  | unanswered h => exact h.trace_eq

variable {connection : Nat} {password text : String} {asked : Option (Session σ)}

/-- The trace of a run goes on with the line noted and written. -/
theorem SendRun.trace_eq (h : SendRun host setup s connection password text asked acts sent t) :
    t.trace = s.trace ++ .sending text :: .wrote connection (text ++ "\r") :: acts := by
  cases h with
  | plain hx hfin => rw [hfin.trace_eq, hx.trace_eq]; simp [note, begun]
  | declined hx _ hy hfin =>
    rw [hfin.trace_eq, hy.trace_eq, giveUpCue, hx.trace_eq]
    simp [note, begun]
  | answered hx _ hy hz hfin =>
    rw [hfin.trace_eq, hz.trace_eq, note, hy.trace_eq, hx.trace_eq]
    simp [note, begun]

end Traces

/-! ## What holds along a send -/

/-- Whether a relation between sessions holds along deliveries and waits, and from the beginning of
one thing to the end of the next. -/
structure AlongWaits (setup : Setup) (R : Session σ → Session σ → Prop) : Prop where
  refl : ∀ s, R s s
  trans : ∀ {s t u}, R s t → R t u → R s u
  delivers : ∀ {s t acts}, Delivers setup.width s acts t → R s t
  /-- The prompt that was seen is forgotten. -/
  lower : ∀ s, R s { s with inbox := { s.inbox with promptSeen := false } }
  giveUpCue : ∀ s, R s s.giveUpCue

/-- Whether a relation between sessions holds along everything that a send is made of. -/
structure Along (setup : Setup) (R : Session σ → Session σ → Prop) : Prop
    extends AlongWaits setup R where
  begun : ∀ s text, R s (s.begun setup text)
  wrote : ∀ s connection text, R s (s.note [.wrote connection text])
  collect : ∀ s, R s s.collect.2

section Along

variable {host setup} {R : Session σ → Session σ → Prop} {s t : Session σ} {acts : List Activity}
  {sent : Sent}

/-- However a send ends, what holds along sends holds. -/
theorem Finish.along (hR : Along setup R) (h : Finish setup s acts sent t) : R s t := by
  cases h with
  | refused cause => exact hR.refl s
  | @ready t u x y hx _ hy =>
    exact hR.trans (hR.delivers hx)
      (hR.trans (hR.lower t) (hR.trans (hR.delivers hy) (hR.collect u)))
  | closed hx _ => exact hR.delivers hx
  | unanswered hx => exact hR.delivers hx

/-- However a send goes, what holds along sends holds. -/
theorem SendRun.along (hR : Along setup R) {connection : Nat} {password text : String}
    {asked : Option (Session σ)}
    (h : SendRun host setup s connection password text asked acts sent t) : R s t := by
  have hbegun : R s ((s.begun setup text).note [.wrote connection (text ++ "\r")]) :=
    hR.trans (hR.begun s text) (hR.wrote _ connection _)
  cases h with
  | plain hx hfin => exact hR.trans hbegun (hR.trans (hR.delivers hx) (hfin.along hR))
  | @declined w _ _ x y z _ hx _ hy hfin =>
    exact hR.trans hbegun (hR.trans (hR.delivers hx)
      (hR.trans (hR.giveUpCue w) (hR.trans (hR.delivers hy) (hfin.along hR))))
  | @answered w _ _ x y z z' _ hx _ hy hz hfin =>
    have hwrote : R (w.pause host setup .answering)
        ((w.pause host setup .answering).note [.wrote connection (password ++ "\r")]) :=
      hR.wrote _ connection _
    exact hR.trans hbegun (hR.trans (hR.delivers hx) (hR.trans (hR.delivers hy)
      (hR.trans hwrote (hR.trans (hR.delivers hz) (hfin.along hR)))))

end Along

/-! ## A scripted session -/

/-- The scripted host, acting on its script alone. -/
def scripted : Host HostScript := scriptedHost id fun _ h => h

/-- What the scripted session is set up with. -/
def scriptedSetup : Setup := { settings := {}, anchorRow := 1, width := 40 }

/-- Where the scripted session is connected to. -/
def scriptedEndpoint : Endpoint := ⟨"box", 22, "deploy", "hunter2"⟩

/-- A session that has just been connected to a scripted host with the given responses. -/
def connectedTo (responses : List Response) : Session HostScript :=
  (({ world := { responses } } : Session HostScript).connect scripted scriptedSetup
    scriptedEndpoint).2

end ScriptedShell.Remote.Session
