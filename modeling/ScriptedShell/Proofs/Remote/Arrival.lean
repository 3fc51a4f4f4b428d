/-
# What deliveries do to an inbox

A delivery does nothing but keep bytes back, handle lines one after the other, and record a
failure of the stream.  `Arrives` is that closure: one inbox becomes another while activities are
noted.  Whatever is true of the inbox after deliveries is read off the lines that were heard: the
flags (`Arrives.promptSeen_eq`, `Arrives.cueSeen_eq`), the location (`Arrives.location_eq`), the
two lists of output (`Arrives.gathered`) and the console (`Arrives.shownEntries_eq`).
-/
import Mathlib
import ScriptedShell.Proofs.Text.Trim
import ScriptedShell.Remote.Inbox

namespace ScriptedShell.Remote

open Text Terminal

/-! ## Reading a trace -/

/-- The line of an activity, if it is a line heard and taken for the given kind. -/
def heardAs (kind : LineKind) : Activity → Option String
  | .heard line k => if k = kind then some line else none
  | _ => none

/-- The lines of a trace that were heard and taken for the given kind, in order. -/
def linesHeard (kind : LineKind) (acts : List Activity) : List String :=
  acts.filterMap (heardAs kind)

/-- The output known after one more activity: the lines since the last prompt, and those before
it. -/
def gather (known : List String × List String) : Activity → List String × List String
  | .heard line .output => (known.1 ++ [line], known.2)
  | .heard _ .prompt => ([], known.1)
  | _ => known

/-- What the console is told of an activity outside fixed-row mode: output, and failures of the
stream. -/
def announced? : Activity → Option Entry
  | .heard line .output => some (.line line)
  | .broke cause => some (.line cause.message)
  | _ => none

@[simp] theorem linesHeard_nil (kind : LineKind) : linesHeard kind [] = [] := rfl

@[simp] theorem linesHeard_append (kind : LineKind) (x y : List Activity) :
    linesHeard kind (x ++ y) = linesHeard kind x ++ linesHeard kind y := List.filterMap_append

theorem shownEntries_append (acts more : List Activity) :
    shownEntries (acts ++ more) = shownEntries acts ++ shownEntries more :=
  List.filterMap_append

/-- A line heard counts for its own kind only. -/
theorem linesHeard_cons_heard (kind k : LineKind) (line : String) (acts : List Activity) :
    linesHeard kind (.heard line k :: acts) =
      if k = kind then line :: linesHeard kind acts else linesHeard kind acts := by
  rw [linesHeard, List.filterMap_cons, heardAs]
  split <;> simp_all [linesHeard]

/-- An activity that is no line heard does not count. -/
theorem linesHeard_cons_of_none {kind : LineKind} {a : Activity} (acts : List Activity)
    (h : heardAs kind a = none) : linesHeard kind (a :: acts) = linesHeard kind acts :=
  List.filterMap_cons_none h

namespace Inbox

/-! ## What a line shows -/

/-- A line shows entries on the console and does nothing else. -/
theorem shown_of_mem_display {b : Inbox} {width : Nat} {line : String} {kind : LineKind}
    {a : Activity} (h : a ∈ b.display width line kind) : ∃ entry, a = .shown entry := by
  cases kind with
  | echo => simp [display] at h
  | cue => simp [display] at h
  | prompt =>
    rw [display] at h
    split at h
    · rcases List.mem_cons.mp h with rfl | h
      · exact ⟨_, rfl⟩
      · obtain ⟨row, -, rfl⟩ := List.mem_map.mp h
        exact ⟨_, rfl⟩
    · simp at h
  | output =>
    rw [display] at h
    split at h <;> exact ⟨_, List.mem_singleton.mp h⟩

/-- No line is heard in what a line shows. -/
@[simp] theorem linesHeard_display (b : Inbox) (width : Nat) (line : String)
    (kind k : LineKind) : linesHeard k (b.display width line kind) = [] := by
  rw [linesHeard, List.filterMap_eq_nil_iff]
  intro a ha
  obtain ⟨entry, rfl⟩ := shown_of_mem_display ha
  rfl

/-- What a line shows adds nothing to the output known. -/
@[simp] theorem foldl_gather_display (b : Inbox) (width : Nat) (line : String) (kind : LineKind)
    (known : List String × List String) :
    (b.display width line kind).foldl gather known = known := by
  have hall : ∀ a ∈ b.display width line kind, ∃ entry, a = .shown entry :=
    fun a ha => shown_of_mem_display ha
  generalize b.display width line kind = acts at hall
  induction acts with
  | nil => rfl
  | cons a acts ih =>
    obtain ⟨entry, rfl⟩ := hall a List.mem_cons_self
    exact ih fun a ha => hall a (List.mem_cons_of_mem _ ha)

/-! ## What a line is taken for -/

/-- Whether a line can be taken for a kind in an inbox: the line sent is the echo, and no other
line is; prompts and requests for the password read as such, and output does not read as a
prompt. -/
def Fits (b : Inbox) (line : String) : LineKind → Prop
  | .echo => b.lastSent = some line
  | .cue => b.lastSent ≠ some line ∧ isPasswordCue line b.passwordCue
  | .prompt => b.lastSent ≠ some line ∧ isPromptLine line b.user b.superuser
  | .output => b.lastSent ≠ some line ∧ ¬ isPromptLine line b.user b.superuser

/-- A line fits the kind that it is taken for. -/
theorem fits_classify (b : Inbox) (line : String) : b.Fits line (b.classify line) := by
  rw [classify]
  split_ifs with hecho hcue hprompt
  · exact hecho
  · exact ⟨hecho, (Bool.and_eq_true _ _ ▸ hcue).2⟩
  · exact ⟨hecho, hprompt⟩
  · exact ⟨hecho, hprompt⟩

/-- A line is taken for a request for the password only while one is awaited. -/
theorem awaitingCue_of_classify {b : Inbox} {line : String} (h : b.classify line = .cue) :
    b.awaitingCue = true := by
  rw [classify] at h
  split_ifs at h with hecho hcue
  exact (Bool.and_eq_true _ _ ▸ hcue).1

/-! ## The closure -/

/-- Whether a line is what handling leaves of a line of text: trimmed, and not blank. -/
def IsLine (line : String) : Prop := line ≠ "" ∧ trimmed line = line

/-- Whether an activity is a call that asks the host for nothing and tells it nothing. -/
def IsSilentCall (a : Activity) : Prop := ∃ c, a = .opened c ∨ a = .flushed c ∨ a = .closed c

/-- Deliveries, and silent calls between them, take an inbox to another one while activities are
noted. -/
inductive Arrives (width : Nat) : Inbox → List Activity → Inbox → Prop
  /-- Nothing is delivered any more. -/
  | done (b : Inbox) : Arrives width b [] b
  /-- Other bytes are kept back. -/
  | hold {b b' : Inbox} {acts : List Activity} (bytes : List UInt8) :
      Arrives width { b with pending := bytes } acts b' → Arrives width b acts b'
  /-- A line is handled. -/
  | line {b b' : Inbox} {acts : List Activity} (line : String) : IsLine line →
      Arrives width (b.afterLine line (b.classify line)) acts b' →
      Arrives width b
        (.heard line (b.classify line) :: (b.display width line (b.classify line) ++ acts)) b'
  /-- The stream fails. -/
  | broke {b b' : Inbox} {acts : List Activity} (cause : Failure) :
      Arrives width { b with streamError := some cause.message } acts b' →
      Arrives width b (.broke cause :: .shown (.line cause.message) :: acts) b'
  /-- The host is called. -/
  | call {b b' : Inbox} {acts : List Activity} (a : Activity) : IsSilentCall a →
      Arrives width b acts b' → Arrives width b (a :: acts) b'

namespace Arrives

variable {width : Nat} {b b' c : Inbox} {acts more : List Activity}

/-- Deliveries one after the other are deliveries. -/
theorem trans (h : Arrives width b acts b') (h' : Arrives width b' more c) :
    Arrives width b (acts ++ more) c := by
  induction h with
  | done b => exact h'
  | hold bytes _ ih => exact .hold bytes (ih h')
  | line text htext _ ih =>
    rw [List.cons_append, List.append_assoc]
    exact .line text htext (ih h')
  | broke cause _ ih => exact .broke cause (ih h')
  | call a ha _ ih => exact .call a ha (ih h')

/-! ## What stays -/

/-- Deliveries leave everything alone that a session sets up. -/
theorem setup_eq (h : Arrives width b acts b') :
    b'.generation = b.generation ∧ b'.phase = b.phase ∧ b'.user = b.user ∧
      b'.superuser = b.superuser ∧ b'.passwordCue = b.passwordCue ∧ b'.lastSent = b.lastSent := by
  induction h with
  | done b => exact ⟨rfl, rfl, rfl, rfl, rfl, rfl⟩
  | hold bytes _ ih => exact ih
  | @line b b' acts text _ _ ih => cases hk : b.classify text <;> rw [hk] at ih <;> exact ih
  | broke cause _ ih => exact ih
  | call a _ _ ih => exact ih

/-- Deliveries neither begin nor end fixed-row mode. -/
theorem active_eq (h : Arrives width b acts b') : b'.redraw.active = b.redraw.active := by
  induction h with
  | done b => rfl
  | hold bytes _ ih => exact ih
  | @line b b' acts text _ _ ih =>
    rw [ih]
    cases b.classify text with
    | echo => rfl
    | cue => rfl
    | prompt => rw [afterLine, afterPrompt]; split <;> rfl
    | output => rw [afterLine, afterOutput]; split <;> rfl
  | broke cause _ ih => exact ih
  | call a _ _ ih => exact ih

/-! ## What is read off the lines -/

/-- A flag that only lines of one kind raise is raised when such a line was heard, or before. -/
theorem raised_eq {flag : Inbox → Bool} {kind : LineKind}
    (hold : ∀ b bytes, flag { b with pending := bytes } = flag b)
    (hbroke : ∀ b reason, flag { b with streamError := reason } = flag b)
    (hline : ∀ b line k, flag (b.afterLine line k) = (flag b || k = kind))
    (h : Arrives width b acts b') :
    flag b' = (flag b || !(linesHeard kind acts).isEmpty) := by
  induction h with
  | done b => simp
  | hold bytes _ ih => rw [ih, hold]
  | @line b b' acts text _ _ ih =>
    rw [linesHeard_cons_heard, linesHeard_append, linesHeard_display, List.nil_append, ih, hline]
    split_ifs with hkind <;> simp [hkind]
  | @broke b b' acts cause _ ih =>
    rw [ih, hbroke b (some cause.message)]
    rfl
  | call a ha _ ih => rcases ha with ⟨c, rfl | rfl | rfl⟩ <;> exact ih

/-- A prompt has been seen when one was heard, or before. -/
theorem promptSeen_eq (h : Arrives width b acts b') :
    b'.promptSeen = (b.promptSeen || !(linesHeard .prompt acts).isEmpty) :=
  h.raised_eq (fun _ _ => rfl) (fun _ _ => rfl) fun b _ k => by
    cases k <;> simp [afterLine, afterPrompt, afterOutput]

/-- A request for the password has been seen when one was heard, or before. -/
theorem cueSeen_eq (h : Arrives width b acts b') :
    b'.cueSeen = (b.cueSeen || !(linesHeard .cue acts).isEmpty) :=
  h.raised_eq (fun _ _ => rfl) (fun _ _ => rfl) fun b _ k => by
    cases k <;> simp [afterLine, afterPrompt, afterOutput]

/-- The location is that of the last prompt heard. -/
theorem location_eq (h : Arrives width b acts b') :
    b'.location = ((linesHeard .prompt acts).getLast?.map promptLocation).or b.location := by
  induction h with
  | done b => rfl
  | hold bytes _ ih => exact ih
  | @line b b' acts text _ _ ih =>
    rw [linesHeard_cons_heard, linesHeard_append, linesHeard_display, List.nil_append, ih]
    cases b.classify text with
    | echo => rfl
    | cue => rfl
    | output => rfl
    | prompt =>
      rw [if_pos rfl, List.getLast?_cons]
      cases (linesHeard .prompt acts).getLast? <;> rfl
  | broke cause _ ih => exact ih
  | call a ha _ ih => rcases ha with ⟨c, rfl | rfl | rfl⟩ <;> exact ih

/-- The two lists of output are what is gathered from the lines. -/
theorem gathered (h : Arrives width b acts b') :
    (b'.queue, b'.completed) = acts.foldl gather (b.queue, b.completed) := by
  induction h with
  | done b => rfl
  | hold bytes _ ih => exact ih
  | @line b b' acts text _ _ ih =>
    rw [List.foldl_cons, List.foldl_append, foldl_gather_display, ih]
    cases b.classify text <;> rfl
  | broke cause _ ih => exact ih
  | call a ha _ ih => rcases ha with ⟨c, rfl | rfl | rfl⟩ <;> exact ih

/-- A request for the password is heard only while one is awaited, and no prompt is heard before
the first one. -/
theorem cue_first (h : Arrives width b acts b') (hcue : linesHeard .cue acts ≠ []) :
    b.awaitingCue = true ∧ ∃ before request after,
      acts = before ++ .heard request .cue :: after ∧ linesHeard .prompt before = [] := by
  induction h with
  | done b => exact absurd rfl hcue
  | hold bytes _ ih => exact ih hcue
  | @line b b' acts text _ _ ih =>
    rw [linesHeard_cons_heard, linesHeard_append, linesHeard_display, List.nil_append] at hcue
    cases hk : b.classify text with
    | cue =>
      exact ⟨awaitingCue_of_classify hk, [], text, _, rfl, rfl⟩
    | echo =>
      rw [hk] at ih hcue
      obtain ⟨hwait, before, request, after, rfl, hbefore⟩ := ih (by simpa using hcue)
      exact ⟨hwait, .heard text .echo :: before, request, after, rfl, hbefore⟩
    | prompt =>
      rw [hk] at ih hcue
      exact absurd (ih (by simpa using hcue)).1 (by simp [afterLine, afterPrompt])
    | output =>
      rw [hk] at ih hcue
      obtain ⟨hwait, before, request, after, rfl, hbefore⟩ := ih (by simpa using hcue)
      refine ⟨hwait, .heard text .output :: (b.display width text .output ++ before), request,
        after, by simp, ?_⟩
      rw [linesHeard_cons_heard, linesHeard_append, linesHeard_display, hbefore]
      rfl
  | broke cause _ ih =>
    obtain ⟨hwait, before, request, after, rfl, hbefore⟩ := ih hcue
    exact ⟨hwait, .broke cause :: .shown (.line cause.message) :: before, request, after, rfl,
      hbefore⟩
  | call a ha _ ih =>
    rcases ha with ⟨c, rfl | rfl | rfl⟩ <;>
      obtain ⟨hwait, before, request, after, rfl, hbefore⟩ := ih hcue <;>
      exact ⟨hwait, _ :: before, request, after, rfl, hbefore⟩

/-- Every line heard is a line, and fits the kind that it was taken for. -/
theorem fits (h : Arrives width b acts b') {heard : String} {kind : LineKind}
    (hheard : .heard heard kind ∈ acts) : IsLine heard ∧ b.Fits heard kind := by
  induction h with
  | done b => simp at hheard
  | hold bytes _ ih => exact ih hheard
  | @line b b' acts text htext _ ih =>
    rcases List.mem_cons.mp hheard with heq | hheard
    · cases heq
      exact ⟨htext, b.fits_classify heard⟩
    · rcases List.mem_append.mp hheard with hshown | hheard
      · obtain ⟨entry, hentry⟩ := shown_of_mem_display hshown
        cases hentry
      · obtain ⟨hline, hfits⟩ := ih hheard
        refine ⟨hline, ?_⟩
        -- what a kind asks for is untouched by handling a line
        cases hk : b.classify text <;> rw [hk] at hfits <;> cases kind <;> exact hfits
  | broke cause _ ih => exact ih (by simpa using hheard)
  | call a ha _ ih => rcases ha with ⟨c, rfl | rfl | rfl⟩ <;> exact ih (by simpa using hheard)

/-- Outside fixed-row mode the console is told of output and of failures of the stream, and of
nothing else. -/
theorem shownEntries_eq (h : Arrives width b acts b') (hplain : b.redraw.active = false) :
    shownEntries acts = acts.filterMap announced? := by
  induction h with
  | done b => rfl
  | hold bytes _ ih => exact ih hplain
  | @line b b' acts text htext _ ih =>
    have hstill : (b.afterLine text (b.classify text)).redraw.active = false :=
      (@Arrives.line width b _ _ text htext (.done _)).active_eq.trans hplain
    have hrest : shownEntries acts = acts.filterMap announced? := ih hstill
    cases b.classify text with
    | echo => exact hrest
    | cue => exact hrest
    | prompt =>
      rw [display, hplain]
      exact hrest
    | output =>
      rw [display, hplain]
      exact congrArg (Entry.line text :: ·) hrest
  | @broke b b' acts cause _ ih =>
    exact congrArg (Entry.line cause.message :: ·) (ih hplain)
  | call a ha _ ih => rcases ha with ⟨c, rfl | rfl | rfl⟩ <;> exact ih hplain

/-- No connection is asked for and nothing is written while deliveries come in. -/
theorem not_mem_of_told (h : Arrives width b acts b') {a : Activity}
    (ha : (∃ c endpoint timeout, a = .opening c endpoint timeout) ∨ ∃ c text, a = .wrote c text) :
    a ∉ acts := by
  induction h with
  | done b => exact List.not_mem_nil
  | hold bytes _ ih => exact ih
  | @line b b' acts text _ _ ih =>
    intro hmem
    rcases List.mem_cons.mp hmem with rfl | hmem
    · simp at ha
    · rcases List.mem_append.mp hmem with hshown | hmem
      · obtain ⟨entry, rfl⟩ := shown_of_mem_display hshown
        simp at ha
      · exact ih hmem
  | broke cause _ ih =>
    intro hmem
    rcases List.mem_cons.mp hmem with rfl | hmem
    · simp at ha
    · rcases List.mem_cons.mp hmem with rfl | hmem
      · simp at ha
      · exact ih hmem
  | call a' ha' _ ih =>
    intro hmem
    rcases List.mem_cons.mp hmem with rfl | hmem
    · rcases ha' with ⟨c, rfl | rfl | rfl⟩ <;> simp at ha
    · exact ih hmem

end Arrives

/-! ## Deliveries are arrivals -/

variable {width : Nat}

/-- Handling one line. -/
theorem arrives_handleLine (b : Inbox) (text : List Char) :
    Arrives width b (b.handleLine width text).2 (b.handleLine width text).1 := by
  rw [handleLine]
  split_ifs with hblank
  · exact .done b
  · have hline : IsLine (String.ofList (trim text)) := by
      refine ⟨fun h => hblank (by rw [h]; rfl), ?_⟩
      rw [trimmed, String.toList_ofList, trim_trim]
    simpa using Arrives.line _ hline (.done _)

/-- Handling lines. -/
theorem arrives_handleLines (b : Inbox) (texts : List (List Char)) :
    Arrives width b (b.handleLines width texts).2 (b.handleLines width texts).1 := by
  induction texts generalizing b with
  | nil => exact .done b
  | cons text rest ih => exact (arrives_handleLine b text).trans (ih _)

/-- Handling what stands after the last break. -/
theorem arrives_handleTail (b : Inbox) :
    Arrives width b (b.handleTail width).2 (b.handleTail width).1 := by
  rw [handleTail]
  dsimp only
  split_ifs
  · exact .done b
  · exact .hold [] (arrives_handleLine _ _)
  · exact .done b

/-- Taking in a chunk. -/
theorem arrives_takeIn (b : Inbox) (bytes : List UInt8) :
    Arrives width b (b.takeIn width bytes).2 (b.takeIn width bytes).1 :=
  .hold _ ((arrives_handleLines _ _).trans (arrives_handleTail _))

/-- Receiving a chunk, whatever generation it is of. -/
theorem arrives_receive (generation : Nat) (bytes : List UInt8) (b : Inbox) :
    Arrives width b (receive width generation bytes b).2
      (receive width generation bytes b).1 := by
  rw [receive]
  split_ifs
  · exact arrives_takeIn b bytes
  · exact .done b

/-- A failure of the stream, whatever generation it is of. -/
theorem arrives_fail (generation : Nat) (cause : Failure) (b : Inbox) :
    Arrives width b (fail generation cause b).2 (fail generation cause b).1 := by
  rw [fail]
  split_ifs
  · exact .broke cause (.done _)
  · exact .done b

end Inbox

end ScriptedShell.Remote
