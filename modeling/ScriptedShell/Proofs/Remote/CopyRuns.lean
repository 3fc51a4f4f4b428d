/-
# Runs of a copy

While a copy is watched things are done in order: the password is typed, percentages are reported,
the program is killed.  What is done at a line depends on whether it asks for the password and
whether one before it did, and over all lines of the output it is one of three courses, by how often
the password is asked for (`IsCopyRun`).
-/
import Mathlib
import ScriptedShell.Proofs.Remote.Percentages
import ScriptedShell.Proofs.Remote.Reads

namespace ScriptedShell.Remote

open Text

/-! ## What is done at lines -/

/-- The reports of the percentages of lines. -/
def reports (lines : List (List Char)) : List CopyAct :=
  (lines.flatMap percentagesOf).map .reported

/-- The reports of more lines come after. -/
theorem reports_append (lines more : List (List Char)) :
    reports (lines ++ more) = reports lines ++ reports more := by
  unfold reports
  rw [List.flatMap_append, List.map_append]

namespace CopyWatch

/-- Whether a line asks for the password. -/
def asks (cue : String) (text : List Char) : Bool := isPasswordCue (String.ofList text) cue

section Steps

variable {w : CopyWatch} {text : List Char} {lines : List (List Char)}

/-- At a line that does not ask for the password its percentages are reported. -/
theorem line_of_not_asks (hrejected : w.rejected = false) (hasks : asks w.cue text = false) :
    w.line text = w.report text := by
  unfold asks at hasks
  rw [line, hrejected, hasks]
  rfl

/-- At the first line that asks for the password it is typed. -/
theorem line_of_asks_first (hrejected : w.rejected = false) (hasks : asks w.cue text = true)
    (hanswered : w.answered = false) : w.line text = w.answer := by
  unfold asks at hasks
  rw [line, hrejected, hasks, hanswered]
  rfl

/-- At the second line that asks for the password the program is killed. -/
theorem line_of_asks_again (hrejected : w.rejected = false) (hasks : asks w.cue text = true)
    (hanswered : w.answered = true) : w.line text = w.reject := by
  unfold asks at hasks
  rw [line, hrejected, hasks, hanswered]
  rfl

/-- After the program is killed nothing is done. -/
theorem foldl_line_of_rejected (hrejected : w.rejected = true) (lines : List (List Char)) :
    lines.foldl line w = w := by
  have hline (text : List Char) : w.line text = w := if_pos hrejected
  induction lines with
  | nil => rfl
  | cons text lines ih => rw [List.foldl_cons, hline, ih]

/-- The watch when lines have come of which none asks for the password. -/
def past (w : CopyWatch) (lines : List (List Char)) : CopyWatch :=
  { w with acts := w.acts ++ reports lines, lastLine := lines.getLast?.getD w.lastLine }

/-- At lines of which none asks for the password the percentages are reported, line by line. -/
theorem foldl_line_of_not_asks (hrejected : w.rejected = false)
    (hlines : ∀ text ∈ lines, asks w.cue text = false) : lines.foldl line w = w.past lines := by
  induction lines generalizing w with
  | nil =>
    unfold past reports
    rw [List.flatMap_nil, List.map_nil, List.append_nil]
    rfl
  | cons text lines ih =>
    have hline : w.line text = w.report text :=
      line_of_not_asks hrejected (hlines text List.mem_cons_self)
    have hrest : lines.foldl line (w.report text) = (w.report text).past lines :=
      ih (w := w.report text) hrejected
        (fun text htext => hlines text (List.mem_cons_of_mem _ htext))
    rw [List.foldl_cons, hline, hrest]
    unfold past report
    rw [← List.singleton_append (l := lines), reports_append, List.append_assoc,
      List.singleton_append, List.getLast?_cons]
    unfold reports
    rw [List.flatMap_singleton]
    rfl

/-- Up to the first line that asks for the password the percentages are reported, and there the
password is typed. -/
theorem foldl_line_first {before : List (List Char)} (rest : List (List Char))
    {request : List Char} (hrejected : w.rejected = false) (hanswered : w.answered = false)
    (hbefore : ∀ text ∈ before, asks w.cue text = false) (hrequest : asks w.cue request = true) :
    (before ++ request :: rest).foldl line w = rest.foldl line (w.past before).answer := by
  rw [List.foldl_append, foldl_line_of_not_asks hrejected hbefore, List.foldl_cons,
    line_of_asks_first (w := w.past before) hrejected hrequest hanswered]

/-- Up to the next line that asks for the password the percentages are reported, and there the
program is killed. -/
theorem foldl_line_again {between : List (List Char)} (rest : List (List Char))
    {again : List Char} (hrejected : w.rejected = false) (hanswered : w.answered = true)
    (hbetween : ∀ text ∈ between, asks w.cue text = false) (hagain : asks w.cue again = true) :
    (between ++ again :: rest).foldl line w = (w.past between).reject := by
  rw [List.foldl_append, foldl_line_of_not_asks hrejected hbetween, List.foldl_cons,
    line_of_asks_again (w := w.past between) hrejected hagain hanswered]
  exact foldl_line_of_rejected rfl rest

end Steps

/-- Lines that count are not empty. -/
theorem ne_nil_of_mem_linesOf {bytes : List UInt8} {text : List Char} (h : text ∈ linesOf bytes) :
    text ≠ [] := by
  unfold linesOf at h
  rw [List.mem_filter, Bool.not_eq_true', List.isEmpty_eq_false_iff] at h
  exact h.2

end CopyWatch

/-! ## The course of a copy -/

/-- How a copy ends whose password is not rejected: well if the program ends with success, else
with the last line that does not ask for the password, or with the program if there is none. -/
def copyEnding (s : RemoteSettings) (path : String) (succeeded : Bool)
    (lines : List (List Char)) : Option Failure :=
  if succeeded then none
  else some (.transferFailed path
    (match lines.getLast? with
      | some text => String.ofList text
      | none => s.copyProgram ++ " exited with an error"))

/-- The courses of a copy by the lines of its output: what is done, and how it ends.  The password
is not asked for, or it is typed where it is asked for, or it is asked for again, and nothing counts
that comes after. -/
inductive IsCopyRun (s : RemoteSettings) (endpoint : Endpoint) (path : String) (succeeded : Bool) :
    List (List Char) → CopyReport → Prop
  | unasked {lines : List (List Char)} :
      (∀ text ∈ lines, CopyWatch.asks s.passwordCue text = false) →
      IsCopyRun s endpoint path succeeded lines
        { acts := reports lines, failure := copyEnding s path succeeded lines }
  | answered {before after : List (List Char)} {request : List Char} :
      (∀ text ∈ before, CopyWatch.asks s.passwordCue text = false) →
      CopyWatch.asks s.passwordCue request = true →
      (∀ text ∈ after, CopyWatch.asks s.passwordCue text = false) →
      IsCopyRun s endpoint path succeeded (before ++ request :: after)
        { acts := reports before ++ .typed (Login.typedPassword endpoint) :: reports after
          failure := copyEnding s path succeeded (before ++ after) }
  | rejected {before between rest : List (List Char)} {request again : List Char} :
      (∀ text ∈ before, CopyWatch.asks s.passwordCue text = false) →
      CopyWatch.asks s.passwordCue request = true →
      (∀ text ∈ between, CopyWatch.asks s.passwordCue text = false) →
      CopyWatch.asks s.passwordCue again = true →
      IsCopyRun s endpoint path succeeded (before ++ request :: (between ++ again :: rest))
        { acts := reports before ++ .typed (Login.typedPassword endpoint) ::
            (reports between ++ [.killed])
          failure := some (.transferFailed path "password rejected") }

/-- Of lines none asks for the password, or one of them is the first one that does. -/
theorem not_asks_or_first (cue : String) (lines : List (List Char)) :
    (∀ text ∈ lines, CopyWatch.asks cue text = false) ∨
      ∃ before request after, lines = before ++ request :: after ∧
        (∀ text ∈ before, CopyWatch.asks cue text = false) ∧
        CopyWatch.asks cue request = true := by
  cases hfirst : lines.find? (CopyWatch.asks cue) with
  | none =>
    left
    intro text htext
    rw [List.find?_eq_none] at hfirst
    exact Bool.eq_false_iff.mpr (hfirst text htext)
  | some request =>
    right
    obtain ⟨hasks, before, after, hlines, hbefore⟩ := List.find?_eq_some_iff_append.mp hfirst
    refine ⟨before, request, after, hlines, ?_, hasks⟩
    intro text htext
    simpa using hbefore text htext

section Course

variable {s : RemoteSettings} {endpoint : Endpoint} {path : String} {succeeded : Bool}

/-- How a watch ends a copy whose password is not rejected. -/
theorem outcome_of_not_rejected {w : CopyWatch} {lines : List (List Char)}
    (hrejected : w.rejected = false) (hlines : ∀ text ∈ lines, text ≠ [])
    (hlast : w.lastLine = lines.getLast?.getD []) :
    w.outcome s.copyProgram path succeeded = copyEnding s path succeeded lines := by
  unfold CopyWatch.outcome copyEnding
  rw [hrejected, if_neg Bool.false_ne_true, hlast]
  by_cases hsucceeded : succeeded = true
  · rw [if_pos hsucceeded, if_pos hsucceeded]
  · rw [if_neg hsucceeded, if_neg hsucceeded]
    -- the watch holds an empty line when there was none, and no line that counts is empty
    cases hget : lines.getLast? with
    | none => rfl
    | some text =>
      have hne : text ≠ [] := hlines text (List.mem_of_getLast? hget)
      rw [Option.getD_some, if_neg (by rwa [List.isEmpty_iff])]

/-- **The course of a watch**: over lines that are not empty, a copy takes one of its courses. -/
theorem isCopyRun_foldl {lines : List (List Char)} (hlines : ∀ text ∈ lines, text ≠ [])
    {w' : CopyWatch} (hw' : w' = lines.foldl CopyWatch.line (.start s endpoint)) :
    IsCopyRun s endpoint path succeeded lines
      { acts := w'.acts, failure := w'.outcome s.copyProgram path succeeded } := by
  subst hw'
  let w := CopyWatch.start s endpoint
  rcases not_asks_or_first s.passwordCue lines with
    hnone | ⟨before, request, rest, rfl, hbefore, hrequest⟩
  · have hwatch : lines.foldl CopyWatch.line w = w.past lines :=
      CopyWatch.foldl_line_of_not_asks rfl hnone
    rw [hwatch, outcome_of_not_rejected rfl hlines rfl]
    exact .unasked hnone
  have hwatch := CopyWatch.foldl_line_first (w := w) rest rfl rfl hbefore hrequest
  rw [hwatch]
  rcases not_asks_or_first s.passwordCue rest with
    hafter | ⟨between, again, rest, rfl, hbetween, hagain⟩
  · have hwatch' : rest.foldl CopyWatch.line (w.past before).answer =
        (w.past before).answer.past rest := CopyWatch.foldl_line_of_not_asks rfl hafter
    have hplain : ∀ text ∈ before ++ rest, text ≠ [] := by
      intro text htext
      apply hlines text
      rw [List.mem_append] at htext ⊢
      exact htext.imp_right (List.mem_cons_of_mem request)
    -- a line before the request is the last one when none comes after it
    have hlast : rest.getLast?.getD (before.getLast?.getD []) =
        (before ++ rest).getLast?.getD [] := by
      rw [List.getLast?_append, Option.getD_or]
    have hacts : (w.past before).acts = reports before := List.nil_append _
    rw [hwatch', outcome_of_not_rejected rfl hplain hlast, CopyWatch.past, CopyWatch.answer, hacts,
      List.append_assoc]
    exact .answered hbefore hrequest hafter
  · have hwatch' := CopyWatch.foldl_line_again (w := (w.past before).answer) rest rfl rfl
      hbetween hagain
    rw [hwatch']
    have hacts : (w.past before).acts = reports before := List.nil_append _
    rw [CopyWatch.reject, CopyWatch.past, CopyWatch.answer, hacts, List.append_assoc,
      List.append_assoc]
    exact .rejected hbefore hrequest hbetween hagain

end Course

/-- What the program's run comes to is a course of its lines. -/
theorem isCopyRun_runCopyProgram (s : RemoteSettings) (endpoint : Endpoint) (path : String)
    (reads : List (List UInt8)) (succeeded : Bool) :
    IsCopyRun s endpoint path succeeded (reads.flatMap CopyWatch.linesOf)
      (runCopyProgram s endpoint path reads succeeded) := by
  have hlines : ∀ text ∈ reads.flatMap CopyWatch.linesOf, text ≠ [] := by
    intro text htext
    obtain ⟨bytes, -, hmem⟩ := List.mem_flatMap.mp htext
    exact CopyWatch.ne_nil_of_mem_linesOf hmem
  exact isCopyRun_foldl hlines (CopyWatch.readAll_eq_foldl _ reads)

/-- The reports that nobody is told leave what is typed and the kill, in their order. -/
theorem acts_runCopy (s : RemoteSettings) (spec : TransferSpec) (reads : List (List UInt8))
    (succeeded : Bool) :
    let report := runCopyProgram s spec.endpoint spec.namedPath reads succeeded
    (runCopy s spec reads succeeded).failure = report.failure ∧
      (runCopy s spec reads succeeded).acts =
        report.acts.filter fun act => spec.direction = .upload ∨ act.reported? = none := by
  intro report
  unfold runCopy
  cases hdirection : spec.direction with
  | upload =>
    refine ⟨rfl, (List.filter_eq_self.mpr ?_).symm⟩
    intro act _
    exact decide_eq_true (.inl rfl)
  | download =>
    refine ⟨rfl, List.filter_congr ?_⟩
    intro act _
    cases act <;> rfl

/-- **A copy takes one of its courses**, whatever its output is: the password is typed at the first
line that asks for it and never again, the percentages of the other lines are reported in order up
to a second request, at which the program is killed and the copy ends, and without one the copy
fails exactly when the program does.  Of a download the same is done, but nobody is told its
percentages.  The percentages of a line are the values, if they fit in a byte, of the numbers before
its percent signs. -/
theorem copy_takes_course (s : RemoteSettings) (spec : TransferSpec) (reads : List (List UInt8))
    (succeeded : Bool) :
    let report := runCopyProgram s spec.endpoint spec.namedPath reads succeeded
    let told := runCopy s spec reads succeeded
    IsCopyRun s spec.endpoint spec.namedPath succeeded (reads.flatMap CopyWatch.linesOf) report ∧
      told.failure = report.failure ∧
      told.acts =
        (report.acts.filter fun act => spec.direction = .upload ∨ act.reported? = none) ∧
      ∀ line, ∃ numbers, (∀ found, IsScan line found ↔ found = numbers) ∧
        percentagesOf line = (numbers.filter fitsByte).map digitsValue := by
  intro report told
  obtain ⟨hfailure, hacts⟩ := acts_runCopy s spec reads succeeded
  refine ⟨isCopyRun_runCopyProgram s spec.endpoint spec.namedPath reads succeeded, hfailure, hacts,
    ?_⟩
  intro line
  have hscan : IsScan line (percentDigits [] line) := isScan_iff.mpr rfl
  exact ⟨_, fun found => isScan_iff, percentagesOf_of_isScan hscan⟩

/-- A percentage comes before the first request, one between both requests, and one too late. -/
example : (runCopy {} scriptedUpload
    (readsOf ["f.bin 5%\r", "deploy@box's password: ", "\r\nf.bin 1234%\r", "password:\n9%"])
    true).acts = [.reported 5, .typed "hunter2\r", .reported 234, .killed] := by
  decide +kernel

end ScriptedShell.Remote
