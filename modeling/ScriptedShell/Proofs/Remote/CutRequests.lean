/-
# Requests for the password that are cut

The request for the password can come in pieces.  It is answered once however the output before and
in it is cut, exactly when no beginning of the request reads as a prompt (`answers_eq_one_iff`).
The name of a host with a colon in it makes one that does (`request_lost_at_colon_of_host`).
-/
import Mathlib
import ScriptedShell.Proofs.Remote.Watching
import ScriptedShell.Proofs.Text.Searching
import ScriptedShell.Proofs.Text.Trim

namespace ScriptedShell.Remote

open Text Terminal

/-! ## Beginnings of lines -/

/-- A line is a prompt when its beginning is one already. -/
theorem isPromptLine_mono {front line : List Char} {user superuser : String}
    (h : front <+: line) (hfront : isPromptLine (String.ofList front) user superuser = true) :
    isPromptLine (String.ofList line) user superuser = true := by
  have hmentions {name : String} (hname : mentionsUser (String.ofList front) name = true) :
      mentionsUser (String.ofList line) name = true := by
    rw [mentionsUser, Bool.and_eq_true, contains, String.toList_ofList] at hname ⊢
    exact ⟨hname.1, occursIn_mono h.isInfix hname.2⟩
  simp only [isPromptLine, Bool.and_eq_true, Bool.or_eq_true, String.toList_ofList,
    List.elem_iff] at hfront ⊢
  obtain ⟨⟨hnames, hat⟩, hcolon⟩ := hfront
  exact ⟨⟨hnames.imp hmentions hmentions, h.mem hat⟩, h.mem hcolon⟩

namespace LoginWatch

variable {w : LoginWatch}

/-- Whether a line, blanks at its ends aside, is a prompt or a request in the form of one. -/
def hasPromptForm (w : LoginWatch) (line : List Char) : Bool :=
  isPromptLine (String.ofList (trim line)) w.user w.superuser

/-- No beginning of a line is taken for a prompt unless the line has the form of one. -/
theorem isPrompt_eq_false_of_beginning {front line : List Char} (h : front <+: line)
    (hline : w.hasPromptForm line = false) : w.isPrompt front = false := by
  rw [← Bool.not_eq_true, isPrompt, Bool.and_eq_true]
  rintro ⟨-, hfront⟩
  have hprompt := isPromptLine_mono (trim_prefix_trim h) hfront
  rw [← hasPromptForm, hline] at hprompt
  cases hprompt

/-- Blanks at the ends of a line make no difference to whether it is a request. -/
theorem isCue_eq_of_trim_eq {line other : List Char} (h : trim line = trim other) :
    w.isCue line = w.isCue other := by
  rw [isCue, isPasswordCue, String.toList_ofList, h, isCue, isPasswordCue, String.toList_ofList]

/-- A beginning of a request with a single colon, the one that ends it, is the request itself or no
prompt. -/
theorem isPrompt_eq_false_of_single_colon {body blanks front : List Char} (hbody : ':' ∉ body)
    (hblanks : ∀ c ∈ blanks, isBlank c = true) (hasks : w.isCue (body ++ ':' :: blanks) = true)
    (hfront : front <+: body ++ ':' :: blanks) : w.isPrompt front = false := by
  rw [← Bool.not_eq_true, isPrompt, Bool.and_eq_true, Bool.not_eq_true']
  rintro ⟨hnot, hprompt⟩
  have hcolon : ':' ∈ front := by
    simp only [isPromptLine, Bool.and_eq_true, String.toList_ofList, List.elem_iff] at hprompt
    exact mem_of_mem_trim hprompt.2
  rcases List.prefix_or_prefix_of_prefix hfront (List.prefix_append body _) with hshort | hlong
  · exact hbody (hshort.mem hcolon)
  · obtain ⟨rest, rfl⟩ := hlong
    rw [List.prefix_append_right_inj] at hfront
    cases rest with
    | nil =>
      rw [List.append_nil] at hcolon
      exact hbody hcolon
    | cons c rest =>
      obtain ⟨rfl, hrest⟩ := List.cons_prefix_cons.mp hfront
      have htrim {more : List Char} (hmore : more <+: blanks) :
          trim (body ++ ':' :: more) = trim (body ++ [':']) := by
        rw [List.append_cons, trim_append_blanks _ fun d hd => hblanks d (hmore.mem hd)]
      rw [isCue_eq_of_trim_eq ((htrim hrest).trans (htrim List.prefix_rfl).symm), hasks] at hnot
      cases hnot

/-- A character after a text ends its last line or goes on with it. -/
theorem lastLine_concat (text : List Char) (c : Char) :
    lastLine (text ++ [c]) = if isLineBreak c then [] else lastLine text ++ [c] := by
  rw [lastLine, splitBreaks_append]
  by_cases hc : isLineBreak c = true
  · simp [splitBreaks, splitAtEach, hc]
  · simp [splitBreaks, splitAtEach, firstLine, hc]

/-- Every beginning of the last line has been the last line at some time. -/
theorem exists_prefix_of_prefix_lastLine {text front : List Char} (h : front <+: lastLine text) :
    ∃ seen, seen <+: text ∧ lastLine seen = front := by
  induction text using List.reverseRecOn with
  | nil =>
    obtain rfl : front = [] := List.prefix_nil.mp h
    exact ⟨[], List.prefix_rfl, rfl⟩
  | append_singleton text c ih =>
    rw [lastLine_concat] at h
    by_cases hc : isLineBreak c = true
    · rw [if_pos hc, List.prefix_nil] at h
      exact ⟨text ++ [c], List.prefix_rfl, by rw [lastLine_concat, if_pos hc, h]⟩
    · rw [if_neg hc, List.prefix_concat_iff] at h
      rcases h with rfl | h
      · exact ⟨text ++ [c], List.prefix_rfl, by rw [lastLine_concat, if_neg hc]⟩
      · obtain ⟨seen, hseen, hlast⟩ := ih h
        exact ⟨seen, hseen.trans (List.prefix_append text [c]), hlast⟩

/-- A transcript can be cut after every beginning of the last line that is shown of it. -/
theorem exists_cut {transcript front : List Char} (hplain : escapeChar ∉ transcript)
    (h : front <+: lastLine (strip transcript)) :
    ∃ before after, transcript = before ++ after ∧ lastLine (strip before) = front := by
  obtain ⟨seen, ⟨rest, hrest⟩, hlast⟩ := exists_prefix_of_prefix_lastLine h
  -- the cut of what is kept of the transcript is a cut of the transcript
  rw [strip_eq_filter hplain] at hrest
  obtain ⟨before, after, rfl, rfl, -⟩ := List.filter_eq_append_iff.mp hrest.symm
  refine ⟨before, after, rfl, ?_⟩
  rw [strip_eq_filter fun hmem => hplain (List.mem_append_left _ hmem), hlast]

/-! ## Answers -/

/-- **However texts are cut, the request that ends them is answered once**, when no beginning of any
of their lines is taken for a prompt. -/
theorem answers_eq_one {w : LoginWatch} {reads : List (List Char)} (hanswered : w.answered = false)
    (hlogged : w.loggedIn = false) (hplain : escapeChar ∉ reads.flatten)
    (haccepted : occursIn refusal.toList reads.flatten = false)
    (hunprompted : ∀ line ∈ splitBreaks (w.seen reads.flatten), ∀ front, front <+: line →
      w.isPrompt front = false)
    (hbefore : w.isCue (lastLine w.pending) = false) (hasks : w.asks reads.flatten = true) :
    w.answers reads = 1 := by
  induction reads generalizing w with
  | nil =>
    rw [asks, seen, List.flatten_nil, strip, stripFrom, List.append_nil, hbefore] at hasks
    cases hasks
  | cons text reads ih =>
    rw [List.flatten_cons] at hplain haccepted hunprompted hasks
    rw [seen_append hplain] at hunprompted
    have hprompts : w.prompts text = false := by
      rw [prompts, List.any_eq_false]
      intro line hline
      obtain ⟨whole, hwhole, hbegins⟩ :=
        exists_line_of_mem_splitBreaks hline (strip reads.flatten)
      rw [hunprompted whole hwhole line hbegins]
      exact Bool.false_ne_true
    have hrefused : occursIn refusal.toList text = false :=
      not_occursIn_mono (List.prefix_append text _).isInfix haccepted
    have hobserved := w.observed text
    generalize hresult : w.observe text = result at hobserved
    cases hobserved with
    | loggedIn h => rw [hlogged] at h; cases h
    | refused _ h => rw [hrefused] at h; cases h
    | asked => rw [answers_cons hresult, answers_eq_zero (.inl rfl)]; rfl
    | prompted _ _ _ h => rw [hprompts] at h; cases h
    | waiting _ _ hnone =>
      -- the next text is looked at together with the last line, which has been looked at
      have hrest : (w.keep text).answers reads = 1 := by
        refine ih hanswered hlogged (fun h => hplain (List.mem_append_right _ h))
          (not_occursIn_mono (List.suffix_append text _).isInfix haccepted) ?_ ?_
          ((asks_keep hplain).trans hasks)
        · intro line hline
          refine hunprompted line ?_
          rw [splitBreaks_append_lastLine]
          exact List.mem_append_right _ hline
        · exact (congrArg w.isCue (lastLine_lastLine _)).trans (hnone hanswered)
      rw [answers_cons hresult, hrest]
      rfl

/-- A cut after something that is taken for a prompt loses the request: nothing is answered. -/
theorem answers_eq_zero_of_cut {w : LoginWatch} {front : List Char}
    (haccepted : occursIn refusal.toList front = false)
    (hprompt : w.isPrompt (lastLine (w.seen front)) = true) (back : List Char) :
    w.answers [front, back] = 0 := by
  have hasks : w.asks front = false := by
    rw [isPrompt, Bool.and_eq_true, Bool.not_eq_true'] at hprompt
    exact hprompt.1
  have hprompts : w.prompts front = true :=
    List.any_eq_true.mpr ⟨_, lastLine_mem_splitBreaks _, hprompt⟩
  obtain ⟨hforward, hlogged⟩ := observe_of_findsPrompt ⟨haccepted, fun _ => hasks, hprompts⟩
  rw [answers_cons (Prod.ext hforward rfl), answers_eq_zero (.inr hlogged)]
  rfl

/-! ## Transcripts that end with a request -/

/-- Whether a text is output without control sequences, and without a refusal, in which complete
lines that are no prompts stand before a request for the password. -/
structure EndsWithRequest (w : LoginWatch) (transcript : List Char) : Prop where
  plain : escapeChar ∉ transcript
  accepted : occursIn refusal.toList transcript = false
  unprompted : ∀ line ∈ (splitBreaks (strip transcript)).dropLast, w.hasPromptForm line = false
  asking : w.isCue (lastLine (strip transcript)) = true

/-- **Which requests are answered however they are cut.**  A watch that begins gives the password
once to a request after complete lines, whatever the reads that these come in, exactly when no
beginning of the request is taken for a prompt. -/
theorem answers_eq_one_iff {user superuser cue : String} {transcript : List Char}
    (h : EndsWithRequest { user, superuser, cue } transcript) :
    let w : LoginWatch := { user, superuser, cue }
    (∀ reads, reads.flatten = transcript → w.answers reads = 1) ↔
      ∀ front, front <+: lastLine (strip transcript) → w.isPrompt front = false := by
  intro w
  constructor
  · intro honce front hfront
    by_contra hprompt
    rw [Bool.not_eq_false] at hprompt
    obtain ⟨before, after, rfl, rfl⟩ := exists_cut h.plain hfront
    have haccepted : occursIn refusal.toList before = false :=
      not_occursIn_mono (List.prefix_append before after).isInfix h.accepted
    have hzero : w.answers [before, after] = 0 := answers_eq_zero_of_cut haccepted hprompt after
    have hone : w.answers [before, after] = 1 := honce [before, after] (by simp)
    omega
  · rintro hfront reads rfl
    have hseen : w.seen reads.flatten = strip reads.flatten := List.nil_append _
    refine answers_eq_one rfl rfl h.plain h.accepted ?_ rfl ?_
    · intro line hline front hbegins
      rw [hseen, splitBreaks_eq_append, List.mem_append, List.mem_singleton] at hline
      rcases hline with hline | rfl
      · exact isPrompt_eq_false_of_beginning hbegins (h.unprompted line hline)
      · exact hfront front hbegins
    · rw [asks, hseen]
      exact h.asking

/-- A request after a warning is answered once, whatever the reads it comes in. -/
theorem answers_eq_one_iff_warned :
    let w : LoginWatch := { user := "deploy", superuser := "root", cue := "password" }
    let transcript := "Warning: added box to the known hosts.\r\ndeploy@box's password: ".toList
    EndsWithRequest w transcript ∧
      ∀ reads, reads.flatten = transcript → w.answers reads = 1 := by
  intro w transcript
  have hends : EndsWithRequest w transcript :=
    ⟨by decide +kernel, by decide +kernel, by decide +kernel, by decide +kernel⟩
  refine ⟨hends, (answers_eq_one_iff hends).mpr fun front hfront => ?_⟩
  have hlast : lastLine (strip transcript) = "deploy@box's password".toList ++ ':' :: [' '] := by
    decide +kernel
  have hasks := hends.asking
  rw [hlast] at hasks hfront
  have hblank : ∀ c ∈ [' '], isBlank c = true := List.forall_mem_singleton.mpr rfl
  exact isPrompt_eq_false_of_single_colon (by decide +kernel) hblank hasks hfront

/-- **A request is lost at a colon in the name of the host.**  What stands before the colon is taken
for the prompt of the host, and so the request is not answered; it is when it comes in one read. -/
theorem request_lost_at_colon_of_host :
    let w : LoginWatch := { user := "deploy", superuser := "root", cue := "password" }
    let request := "deploy@fe80::1's password: ".toList
    let reads := ["deploy@fe80:".toList, ":1's password: ".toList]
    EndsWithRequest w request ∧ reads.flatten = request ∧ w.answers [request] = 1 ∧
      w.answers reads = 0 :=
  ⟨⟨by decide +kernel, by decide +kernel, by decide +kernel, by decide +kernel⟩,
    by decide +kernel⟩

end LoginWatch

end ScriptedShell.Remote
