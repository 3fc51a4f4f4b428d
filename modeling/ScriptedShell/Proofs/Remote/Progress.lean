/-
# Progress upwards

A throttle reports the steps that percentages reach, each step once and only upwards: what it
reports are the strict running maxima of these steps (`getElem?_updates`).  So the lines that an
upload shows while it goes on name larger and larger multiples of five, and end with 100 exactly
when 100 percent have been reached, in whatever order percentages arrive.
-/
import Mathlib
import ScriptedShell.Proofs.Remote.Arrival
import ScriptedShell.Run.Scene

namespace ScriptedShell.Remote

open Text Files

namespace Throttle

/-! ## One percentage -/

/-- A step is reported when it is larger than the last one reported. -/
theorem update_eq (t : Throttle) (percent : Nat) :
    t.update percent =
      if ∀ last ∈ t.last, last < t.bucket percent then
        (some (t.bucket percent), { t with last := some (t.bucket percent) })
      else (none, t) := by
  unfold update
  cases hlast : t.last with
  | none => simp
  | some last =>
    by_cases hle : t.bucket percent ≤ last
    · simp [hle]
    · simp [hle, not_le.mp hle]

/-- Which step a percentage reaches does not change. -/
@[simp] theorem bucket_update (t : Throttle) (percent : Nat) :
    (t.update percent).2.bucket = t.bucket := by
  rw [update_eq]
  split_ifs <;> rfl

/-- What is larger than the last step after a percentage is larger than the last one before it and
than the one that it reaches. -/
theorem last_update_lt_iff (t : Throttle) (percent n : Nat) :
    (∀ last ∈ (t.update percent).2.last, last < n) ↔
      (∀ last ∈ t.last, last < n) ∧ t.bucket percent < n := by
  rw [update_eq]
  cases hlast : t.last with
  | none => simp
  | some last =>
    by_cases hlt : last < t.bucket percent
    · simp [hlt]
      omega
    · simp [hlt, hlast]
      omega

/-- A step is at most 100. -/
theorem bucket_le (t : Throttle) (percent : Nat) : t.bucket percent ≤ 100 := by
  have hle : t.bucket percent ≤ min percent 100 := Nat.div_mul_le_self _ _
  omega

/-! ## Percentages one after the other -/

/-- **Running maxima.**  A percentage is reported exactly when the step that it reaches is larger
than the last one before all percentages and than those of all percentages before it. -/
theorem getElem?_updates (t : Throttle) (before : List Nat) (percent : Nat) (after : List Nat) :
    (t.updates (before ++ percent :: after))[before.length]? =
      some (if (∀ last ∈ t.last, last < t.bucket percent) ∧
          ∀ p ∈ before, t.bucket p < t.bucket percent then some (t.bucket percent) else none) := by
  induction before generalizing t with
  | nil =>
    show some (t.update percent).1 = _
    rw [update_eq]
    by_cases hlast : ∀ last ∈ t.last, last < t.bucket percent
    · rw [if_pos hlast, if_pos ⟨hlast, by simp⟩]
    · rw [if_neg hlast, if_neg fun h => hlast h.1]
  | cons first before ih =>
    show ((t.update first).2.updates (before ++ percent :: after))[before.length]? = _
    rw [ih]
    simp only [last_update_lt_iff, bucket_update, List.forall_mem_cons, and_assoc]

/-- What is reported for percentages, in order. -/
def reported (t : Throttle) (percents : List Nat) : List Nat := (t.updates percents).filterMap id

/-- What is reported for a percentage and those after it. -/
theorem reported_cons (t : Throttle) (percent : Nat) (percents : List Nat) :
    t.reported (percent :: percents) =
      (t.update percent).1.toList ++ (t.update percent).2.reported percents := by
  show ((t.update percent).1 :: (t.update percent).2.updates percents).filterMap id = _
  cases (t.update percent).1 <;> rfl

/-- A step is reported exactly when a percentage reaches it, and those before it only lower ones. -/
theorem mem_reported_iff {t : Throttle} {percents : List Nat} {n : Nat} :
    n ∈ t.reported percents ↔
      (∀ last ∈ t.last, last < n) ∧ ∃ before percent after,
        percents = before ++ percent :: after ∧ t.bucket percent = n ∧
          ∀ p ∈ before, t.bucket p < n := by
  induction percents generalizing t with
  | nil => simp [reported, updates]
  | cons percent percents ih =>
    rw [reported_cons, List.mem_append, ih, last_update_lt_iff, bucket_update]
    constructor
    · rintro (h | ⟨⟨hlast, hfirst⟩, before, p, after, rfl, hp, hbefore⟩)
      · rw [update_eq] at h
        split_ifs at h with hlast
        · obtain rfl : n = t.bucket percent := by simpa using h
          exact ⟨hlast, [], percent, percents, rfl, rfl, by simp⟩
        · simp at h
      · refine ⟨hlast, percent :: before, p, after, rfl, hp, ?_⟩
        rw [List.forall_mem_cons]
        exact ⟨hfirst, hbefore⟩
    · rintro ⟨hlast, before, p, after, hsplit, hp, hbefore⟩
      cases before with
      | nil =>
        obtain ⟨rfl, rfl⟩ := List.cons.inj hsplit
        subst hp
        rw [update_eq, if_pos hlast]
        exact .inl (by simp)
      | cons first before =>
        obtain ⟨rfl, rfl⟩ := List.cons.inj hsplit
        rw [List.forall_mem_cons] at hbefore
        exact .inr ⟨⟨hlast, hbefore.1⟩, before, p, after, rfl, hp, hbefore.2⟩

/-- **Only upwards.**  What is reported grows. -/
theorem pairwise_reported (t : Throttle) (percents : List Nat) :
    (t.reported percents).Pairwise (· < ·) := by
  induction percents generalizing t with
  | nil => exact List.Pairwise.nil
  | cons percent percents ih =>
    rw [reported_cons, List.pairwise_append]
    refine ⟨?_, ih _, ?_⟩
    · cases (t.update percent).1 <;> simp
    · intro first hfirst n hn
      have hlast := (mem_reported_iff.mp hn).1
      apply hlast
      rw [update_eq] at hfirst ⊢
      split_ifs at hfirst ⊢ with hlast
      · simpa [eq_comm] using hfirst
      · simp at hfirst

/-! ## The throttle of uploads -/

/-- The throttle of file transfers reaches 100 exactly with 100 percent and more. -/
theorem bucket_default_eq_hundred_iff (percent : Nat) :
    default.bucket percent = 100 ↔ 100 ≤ percent := by
  have hstep : default.bucket percent = min percent 100 / 5 * 5 := rfl
  omega

/-- What the throttle of file transfers reports are multiples of 5 up to 100. -/
theorem of_mem_reported_default {percents : List Nat} {n : Nat}
    (h : n ∈ default.reported percents) : 5 ∣ n ∧ n ≤ 100 := by
  obtain ⟨-, before, percent, after, -, rfl, -⟩ := mem_reported_iff.mp h
  exact ⟨Nat.dvd_mul_left 5 _, bucket_le _ _⟩

/-- It reports 100 exactly when 100 percent or more have arrived. -/
theorem hundred_mem_reported_default_iff (percents : List Nat) :
    100 ∈ default.reported percents ↔ ∃ p ∈ percents, 100 ≤ p := by
  rw [mem_reported_iff]
  constructor
  · rintro ⟨-, before, percent, after, rfl, hpercent, -⟩
    exact ⟨percent, by simp, (bucket_default_eq_hundred_iff percent).mp hpercent⟩
  · rintro ⟨p, hp, hle⟩
    -- the first of the percentages that are large enough
    have hsome : (percents.find? fun q => decide (100 ≤ q)).isSome = true := by
      rw [List.find?_isSome]
      exact ⟨p, hp, by simpa using hle⟩
    obtain ⟨percent, hfind⟩ := Option.isSome_iff_exists.mp hsome
    obtain ⟨hpercent, before, after, rfl, hbefore⟩ := List.find?_eq_some_iff_append.mp hfind
    refine ⟨by simp [default, ofStep], before, percent, after, rfl, ?_, ?_⟩
    · exact (bucket_default_eq_hundred_iff percent).mpr (by simpa using hpercent)
    · intro q hq
      have hsmall := hbefore q hq
      have hne : default.bucket q ≠ 100 := by
        rw [ne_eq, bucket_default_eq_hundred_iff]
        simpa using hsmall
      have hle := bucket_le default q
      omega

end Throttle

/-! ## What an upload shows -/

/-- The entry of the console that reports a percentage. -/
def progressEntry (n : Nat) : Terminal.Entry := .line ("...." ++ toString n ++ "%")

/-- Whether an entry of the console is a line that begins as reports of percentages do. -/
def isProgressEntry : Terminal.Entry → Bool
  | .line text => startsWith text "...."
  | _ => false

/-- A report of a percentage is one. -/
theorem isProgressEntry_progressEntry (n : Nat) : isProgressEntry (progressEntry n) = true := by
  show startsWith ("...." ++ toString n ++ "%") "...." = true
  rw [startsWith, List.isPrefixOf_iff_prefix, String.toList_append, String.toList_append,
    List.append_assoc]
  exact List.prefix_append _ _

/-- The lines that report percentages. -/
theorem shownEntries_progressLines (percentages : List Nat) :
    shownEntries (progressLines percentages) =
      (Throttle.default.reported percentages).map progressEntry := by
  unfold shownEntries progressLines Throttle.reported
  induction Throttle.default.updates percentages with
  | nil => rfl
  | cons step steps ih =>
    cases step with
    | none => exact ih
    | some n => exact congrArg (progressEntry n :: ·) ih

/-- The other lines of an upload report no percentage. -/
theorem not_isProgressEntry_scp (text : String) :
    isProgressEntry (.line ("scp " ++ text)) = false := by
  show startsWith ("scp " ++ text) "...." = false
  rw [startsWith, String.toList_append]
  rfl

/-- **The reports of an upload** are what the throttle reports for the percentages that arrive. -/
theorem filter_shownEntries_execute {σ : Type} {spec : TransferSpec} {copier : Copier σ}
    {base : String} {world : σ} (hdirection : spec.direction = .upload)
    (hfile : copier.isFile (Path.join base spec.localPath) world = true) :
    (shownEntries (spec.execute copier base world).trace).filter isProgressEntry =
      (Throttle.default.reported (copier.upload spec.endpoint (Path.join base spec.localPath)
        spec.remotePath world).percentages).map progressEntry := by
  have hstart : isProgressEntry (.line ("scp upload file " ++ spec.localPath ++ " start")) =
      false := not_isProgressEntry_scp ("upload file " ++ spec.localPath ++ " start")
  have hfinish : isProgressEntry (.line ("scp upload file " ++ spec.localPath ++ " finish")) =
      false := not_isProgressEntry_scp ("upload file " ++ spec.localPath ++ " finish")
  have hreports : ∀ ns : List Nat,
      (ns.map progressEntry).filter isProgressEntry = ns.map progressEntry := by
    intro ns
    rw [List.filter_eq_self]
    intro entry hentry
    obtain ⟨n, -, rfl⟩ := List.mem_map.mp hentry
    exact isProgressEntry_progressEntry n
  unfold TransferSpec.execute
  rw [hdirection]
  show (shownEntries (spec.upload copier _ world).trace).filter isProgressEntry = _
  unfold TransferSpec.upload
  rw [if_pos hfile]
  generalize copier.upload spec.endpoint (Path.join base spec.localPath) spec.remotePath world =
    copied
  dsimp only
  rw [shownEntries_append, shownEntries_append, List.filter_append, List.filter_append,
    shownEntries_progressLines, hreports]
  -- of the lines around the reports, the second is missing when the upload has failed
  have hfront : (shownEntries [shownLine ("scp upload file " ++ spec.localPath ++ " start"),
      .uploaded spec.endpoint (Path.join base spec.localPath) spec.remotePath]).filter
        isProgressEntry = [] := by
    show [Terminal.Entry.line _].filter isProgressEntry = []
    rw [List.filter_cons_of_neg (by rw [hstart]; exact Bool.false_ne_true), List.filter_nil]
  have hback : (shownEntries (if copied.failure.isNone then
      [shownLine ("scp upload file " ++ spec.localPath ++ " finish")] else [])).filter
        isProgressEntry = [] := by
    split_ifs
    · show [Terminal.Entry.line _].filter isProgressEntry = []
      rw [List.filter_cons_of_neg (by rw [hfinish]; exact Bool.false_ne_true), List.filter_nil]
    · rfl
  rw [hfront, hback, List.nil_append, List.append_nil]

/-- **Progress is reported in strict running maxima.**  With a step of any size, at least 1, a
percentage is reported exactly when the step that it reaches, taken as 100 at most, is larger than
those of all percentages before it, and then this step is reported.  So the lines `....N%` that an
upload shows name growing multiples of 5 up to 100, and 100 is one of them exactly when 100 percent
or more have arrived. -/
theorem progress_running_maxima :
    (∀ (step : Nat) (before : List Nat) (percent : Nat) (after : List Nat),
      let reached := fun p => min p 100 / max step 1 * max step 1
      ((Throttle.ofStep step).updates (before ++ percent :: after))[before.length]? =
        some (if ∀ p ∈ before, reached p < reached percent then some (reached percent)
          else none)) ∧
      ∀ {σ : Type} (spec : TransferSpec) (copier : Copier σ) (base : String) (world : σ),
        spec.direction = .upload →
        copier.isFile (Path.join base spec.localPath) world = true →
        ∃ reports : List Nat,
          (shownEntries (spec.execute copier base world).trace).filter isProgressEntry =
              reports.map (fun n => .line ("...." ++ toString n ++ "%")) ∧
            reports.Pairwise (· < ·) ∧ (∀ n ∈ reports, 5 ∣ n ∧ n ≤ 100) ∧
            (100 ∈ reports ↔ ∃ p ∈ (copier.upload spec.endpoint (Path.join base spec.localPath)
              spec.remotePath world).percentages, 100 ≤ p) := by
  constructor
  · intro step before percent after reached
    have hreached : (Throttle.ofStep step).bucket = reached := rfl
    rw [Throttle.getElem?_updates, hreached]
    simp [Throttle.ofStep]
  · intro σ spec copier base world hdirection hfile
    refine ⟨_, filter_shownEntries_execute hdirection hfile, Throttle.pairwise_reported _ _, ?_,
      Throttle.hundred_mem_reported_default_iff _⟩
    intro n hn
    exact Throttle.of_mem_reported_default hn

/-- An upload of a local file. -/
def reportUpload : TransferSpec :=
  { direction := .upload
    endpoint := { host := "box", port := 22, user := "deploy", password := "hunter2" }
    localPath := "report.txt"
    remotePath := "/srv/report.txt" }

/-- A scene with that file, in which percentages jump back, go over 100, and the upload fails. -/
def jumpingScene : Run.Scene :=
  { machine := { tree := ({} : Tree).put ["report.txt"] (.file [0x31]) }
    shell := .prepared "/" []
    uploads := { percentages := [3, 42, 17, 255, 44, 100], error := some "stalled" } }

/-- Of these percentages three are reported, the last one as 100. -/
theorem progress_running_maxima_jumpingScene :
    reportUpload.direction = .upload ∧
      Run.Scene.copier.isFile (Path.join "/" reportUpload.localPath) jumpingScene = true ∧
      (shownEntries (reportUpload.execute Run.Scene.copier "/" jumpingScene).trace).filter
          isProgressEntry = [.line "....0%", .line "....40%", .line "....100%"] ∧
      ∃ reports : List Nat,
        (shownEntries (reportUpload.execute Run.Scene.copier "/" jumpingScene).trace).filter
            isProgressEntry = reports.map (fun n => .line ("...." ++ toString n ++ "%")) ∧
          reports.Pairwise (· < ·) ∧ 100 ∈ reports := by
  have hdirection : reportUpload.direction = .upload := rfl
  have hfile : Run.Scene.copier.isFile (Path.join "/" reportUpload.localPath) jumpingScene =
      true := by decide +kernel
  obtain ⟨reports, hshown, hgrowing, -, hhundred⟩ :=
    progress_running_maxima.2 reportUpload Run.Scene.copier "/" jumpingScene hdirection hfile
  exact ⟨hdirection, hfile, by decide +kernel, reports, hshown, hgrowing,
    hhundred.mpr ⟨255, by decide +kernel, by decide⟩⟩

end ScriptedShell.Remote
