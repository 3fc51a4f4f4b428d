/-
# Watching a login

What a watch makes of a text is one of five things (`observed`), and only a text that is waited out
leaves something behind: its last line, to which the next text is added.  Adding it to the last line
is adding it to everything seen (`splitBreaks_append_lastLine`).
-/
import Mathlib
import ScriptedShell.Proofs.Remote.Reads
import ScriptedShell.Proofs.Terminal.Escape
import ScriptedShell.Remote.Login

namespace ScriptedShell.Remote.LoginWatch

open Text Terminal

/-! ## The last line -/

/-- The last line is a line. -/
theorem lastLine_mem_splitBreaks (text : List Char) : lastLine text ∈ splitBreaks text := by
  rw [splitBreaks_eq_append]
  exact List.mem_append_right _ List.mem_cons_self

/-- No line break is in the last line. -/
theorem isLineBreak_of_mem_lastLine {text : List Char} {c : Char} (hc : c ∈ lastLine text) :
    isLineBreak c = false :=
  eq_false_of_mem_splitAtEach (lastLine_mem_splitBreaks text) hc

/-- The last line is a text of one line. -/
theorem splitBreaks_lastLine (text : List Char) : splitBreaks (lastLine text) = [lastLine text] :=
  splitAtEach_eq_singleton fun _ => isLineBreak_of_mem_lastLine

/-- The last line of the last line is that line. -/
theorem lastLine_lastLine (text : List Char) : lastLine (lastLine text) = lastLine text := by
  rw [lastLine, splitBreaks_lastLine]
  rfl

/-- **Only the last line goes on**: what follows a text is added to it, and the other lines stay. -/
theorem splitBreaks_append_lastLine (front back : List Char) :
    splitBreaks (front ++ back) =
      (splitBreaks front).dropLast ++ splitBreaks (lastLine front ++ back) := by
  rw [splitBreaks_append, splitBreaks_append (lastLine front), splitBreaks_lastLine,
    lastLine_lastLine]
  rfl

/-- The last line of two texts put together begins in the last line of the first one. -/
theorem lastLine_append (front back : List Char) :
    lastLine (front ++ back) = lastLine (lastLine front ++ back) := by
  rw [lastLine, splitBreaks_append_lastLine,
    List.getLast?_append_of_ne_nil _ (splitBreaks_ne_nil _), ← lastLine]

/-- A line of a text is the beginning of a line when the text goes on. -/
theorem exists_line_of_mem_splitBreaks {front line : List Char} (h : line ∈ splitBreaks front)
    (back : List Char) : ∃ whole ∈ splitBreaks (front ++ back), line <+: whole := by
  rw [splitBreaks_append]
  rw [splitBreaks_eq_append, List.mem_append, List.mem_singleton] at h
  rcases h with h | rfl
  · exact ⟨line, List.mem_append_left _ h, List.prefix_rfl⟩
  · exact ⟨_, List.mem_append_right _ List.mem_cons_self, List.prefix_append _ _⟩

/-! ## What a text is taken for -/

variable {w : LoginWatch} {text : List Char}

/-- What a watch looks at when a text comes: the text, after the line that it goes on with. -/
def seen (w : LoginWatch) (text : List Char) : List Char := w.pending ++ strip text

/-- Whether a watch takes the end of what it looks at for a request for the password. -/
def asks (w : LoginWatch) (text : List Char) : Bool := w.isCue (lastLine (w.seen text))

/-- Whether a watch takes a line of what it looks at for a prompt. -/
def prompts (w : LoginWatch) (text : List Char) : Bool := (splitBreaks (w.seen text)).any w.isPrompt

/-- A watch that has found nothing in a text: it keeps the last line of what it looked at. -/
def keep (w : LoginWatch) (text : List Char) : LoginWatch :=
  { w with pending := lastLine (w.seen text) }

/-- Outside control sequences, texts are looked at one after the other as they are at once. -/
theorem seen_append {front back : List Char} (h : escapeChar ∉ front ++ back) :
    w.seen (front ++ back) = w.seen front ++ strip back := by
  rw [seen, strip_append h, ← List.append_assoc, seen]

/-- When nothing has been found in a text, the next text is taken for a request when both at once
are. -/
theorem asks_keep {front back : List Char} (h : escapeChar ∉ front ++ back) :
    (w.keep front).asks back = w.asks (front ++ back) := by
  rw [asks, asks, seen_append h, lastLine_append]
  rfl

/-- What is done with a text, and what a watch is after it. -/
inductive Observed (w : LoginWatch) (text : List Char) : LoginStep × LoginWatch → Prop
  /-- The prompt has been seen before. -/
  | loggedIn : w.loggedIn = true → Observed w text (.forward, w)
  /-- The password is refused. -/
  | refused : w.loggedIn = false → occursIn refusal.toList text = true →
      Observed w text (.denied, w)
  /-- The password is asked for, for the first time. -/
  | asked : w.loggedIn = false → occursIn refusal.toList text = false → w.answered = false →
      w.asks text = true →
      Observed w text (.answerPassword, { w with answered := true, pending := [] })
  /-- The prompt is seen. -/
  | prompted : w.loggedIn = false → occursIn refusal.toList text = false →
      (w.answered = false → w.asks text = false) → w.prompts text = true →
      Observed w text (.forward, { w with loggedIn := true, pending := [] })
  /-- Nothing is found, and the last line is kept. -/
  | waiting : w.loggedIn = false → occursIn refusal.toList text = false →
      (w.answered = false → w.asks text = false) → w.prompts text = false →
      Observed w text (.forward, w.keep text)

/-- Looking at a text is asking the two questions about it, one after the other. -/
theorem examine_eq (w : LoginWatch) (text : List Char) :
    w.examine text =
      if w.answered = false ∧ w.asks text = true then
        (.answerPassword, { w with answered := true, pending := [] })
      else if w.prompts text = true then (.forward, { w with loggedIn := true, pending := [] })
      else (.forward, w.keep text) := by
  rw [examine]
  simp only [Bool.and_eq_true, Bool.not_eq_true']
  rfl

/-- What a watch makes of a text is one of these. -/
theorem observed (w : LoginWatch) (text : List Char) : w.Observed text (w.observe text) := by
  rw [observe]
  split_ifs with hlogged hrefused
  · exact .loggedIn hlogged
  · exact .refused (by simpa using hlogged) hrefused
  · rw [Bool.not_eq_true] at hlogged hrefused
    rw [examine_eq]
    split_ifs with hasked hprompted
    · exact .asked hlogged hrefused hasked.1 hasked.2
    · exact .prompted hlogged hrefused (by simpa using hasked) hprompted
    · exact .waiting hlogged hrefused (by simpa using hasked) (by simpa using hprompted)

/-! ## Texts one after the other -/

/-- What is done with texts, one after the other. -/
def steps : LoginWatch → List (List Char) → List LoginStep
  | _, [] => []
  | w, text :: rest => (w.observe text).1 :: (w.observe text).2.steps rest

/-- How often the password is given when texts come one after the other. -/
def answers (w : LoginWatch) (reads : List (List Char)) : ℕ := (w.steps reads).count .answerPassword

/-- The answers to texts are that to the first one and those to the others. -/
theorem answers_cons {w after : LoginWatch} {step : LoginStep} {text : List Char}
    (h : w.observe text = (step, after)) (reads : List (List Char)) :
    w.answers (text :: reads) = after.answers reads + [step].count .answerPassword := by
  rw [answers, steps, h, List.count_cons, answers, List.count_singleton]

/-- A watch that has given the password, or has seen the prompt, gives it to no text. -/
theorem answers_eq_zero {w : LoginWatch} (h : w.answered = true ∨ w.loggedIn = true)
    (reads : List (List Char)) : w.answers reads = 0 := by
  induction reads generalizing w with
  | nil => rfl
  | cons text reads ih =>
    have hobserved := w.observed text
    generalize hresult : w.observe text = result at hobserved
    cases hobserved with
    | loggedIn | refused | waiting =>
      rw [answers_cons hresult]
      exact Nat.add_eq_zero_iff.mpr ⟨ih h, rfl⟩
    | asked hlogged _ hanswered => simp [hlogged, hanswered] at h
    | prompted =>
      rw [answers_cons hresult]
      exact Nat.add_eq_zero_iff.mpr ⟨ih (.inr rfl), rfl⟩

/-- **The password is given once at most**, whatever the texts are. -/
theorem answers_le_one (w : LoginWatch) (reads : List (List Char)) : w.answers reads ≤ 1 := by
  induction reads generalizing w with
  | nil => exact Nat.zero_le 1
  | cons text reads ih =>
    have hobserved := w.observed text
    generalize hresult : w.observe text = result at hobserved
    rw [answers_cons hresult]
    cases hobserved with
    | asked => rw [answers_eq_zero (.inl rfl)]; rfl
    | loggedIn | refused | prompted | waiting => exact ih _

/-- A watch after texts that came one after the other. -/
def after (w : LoginWatch) (reads : List (List Char)) : LoginWatch :=
  reads.foldl (fun w text => (w.observe text).2) w

/-- A refusal before the prompt is found is told, and the watch stays as it is. -/
theorem observe_of_refused (hlogged : w.loggedIn = false)
    (hrefused : occursIn refusal.toList text = true) : w.observe text = (.denied, w) := by
  rw [observe, if_neg (by simp [hlogged]), if_pos hrefused]

/-! ## Finding the prompt -/

/-- Whether a prompt is found in a text: the text is no refusal, it is not answered, and a line in
it is a prompt. -/
structure FindsPrompt (w : LoginWatch) (text : List Char) : Prop where
  accepted : occursIn refusal.toList text = false
  unasked : w.answered = false → w.asks text = false
  prompts : w.prompts text = true

/-- Whether a prompt has been found in one of the texts. -/
def HasPrompted (w : LoginWatch) (reads : List (List Char)) : Prop :=
  ∃ front text rest, reads = front ++ text :: rest ∧ (w.after front).FindsPrompt text

/-- A text in which a prompt is found is forwarded, and the prompt has been seen after it. -/
theorem observe_of_findsPrompt (h : w.FindsPrompt text) :
    (w.observe text).1 = .forward ∧ (w.observe text).2.loggedIn = true := by
  have hobserved := w.observed text
  generalize w.observe text = result at hobserved ⊢
  cases hobserved with
  | loggedIn hlogged => exact ⟨rfl, hlogged⟩
  | refused _ hrefused => rw [h.accepted] at hrefused; cases hrefused
  | asked _ _ hanswered hasked => rw [h.unasked hanswered] at hasked; cases hasked
  | prompted => exact ⟨rfl, rfl⟩
  | waiting _ _ _ hnone => rw [h.prompts] at hnone; cases hnone

/-- The prompt has been seen after a text exactly when it had been seen before or is found in the
text. -/
theorem loggedIn_observe_iff (w : LoginWatch) (text : List Char) :
    (w.observe text).2.loggedIn = true ↔ w.loggedIn = true ∨ w.FindsPrompt text := by
  constructor
  · have hobserved := w.observed text
    generalize w.observe text = result at hobserved ⊢
    cases hobserved with
    | loggedIn | refused | asked | waiting => exact .inl
    | prompted _ haccepted hunasked hprompts =>
      exact fun _ => .inr ⟨haccepted, hunasked, hprompts⟩
  · rintro (h | h)
    · rw [observe, if_pos h]
      exact h
    · exact (observe_of_findsPrompt h).2

/-- A prompt has been found in the first text, or in one of the others. -/
theorem hasPrompted_cons (w : LoginWatch) (text : List Char) (reads : List (List Char)) :
    w.HasPrompted (text :: reads) ↔
      w.FindsPrompt text ∨ (w.observe text).2.HasPrompted reads := by
  constructor
  · rintro ⟨front, found, rest, hreads, hfound⟩
    cases front with
    | nil =>
      obtain ⟨rfl, rfl⟩ := List.cons.inj hreads
      exact .inl hfound
    | cons first front =>
      obtain ⟨rfl, rfl⟩ := List.cons.inj hreads
      exact .inr ⟨front, found, rest, rfl, hfound⟩
  · rintro (hfound | ⟨front, found, rest, rfl, hfound⟩)
    · exact ⟨[], text, reads, rfl, hfound⟩
    · exact ⟨text :: front, found, rest, rfl, hfound⟩

/-- **The prompt has been seen** after texts exactly when it had been seen before or has been found
in one of them. -/
theorem loggedIn_after_iff (w : LoginWatch) (reads : List (List Char)) :
    (w.after reads).loggedIn = true ↔ w.loggedIn = true ∨ w.HasPrompted reads := by
  induction reads generalizing w with
  | nil =>
    have hnone : ¬ w.HasPrompted [] := by
      rintro ⟨front, text, rest, hreads, -⟩
      cases front <;> cases hreads
    exact (or_iff_left hnone).symm
  | cons text reads ih =>
    rw [hasPrompted_cons, ← or_assoc, ← loggedIn_observe_iff]
    exact ih _

/-- No line break is in what a watch keeps. -/
theorem isLineBreak_of_mem_pending {c : Char} (hpending : ∀ c ∈ w.pending, isLineBreak c = false)
    {reads : List (List Char)} (hc : c ∈ (w.after reads).pending) : isLineBreak c = false := by
  induction reads using List.reverseRecOn with
  | nil => exact hpending c hc
  | append_singleton reads text ih =>
    rw [after, List.foldl_concat, ← after] at hc
    have hobserved := (w.after reads).observed text
    generalize (w.after reads).observe text = result at hobserved hc
    cases hobserved with
    | loggedIn | refused => exact ih hc
    | asked | prompted => cases hc
    | waiting => exact isLineBreak_of_mem_lastLine hc

end ScriptedShell.Remote.LoginWatch
