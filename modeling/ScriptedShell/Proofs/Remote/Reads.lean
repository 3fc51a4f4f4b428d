/-
# The reads of a copy

The output of the program that copies files is cut into lines read by read, and no line goes on
from one read to the next.  So a copy comes out the same however its output is cut, as long as every
cut is between two lines, outside characters and control sequences (`runCopy_cutsBetweenLines`).
Of the cuts outside characters and control sequences, those between two lines are the only ones
that keep the lines (`linesOf_append_iff`).
-/
import Mathlib
import ScriptedShell.Proofs.Remote.Reading
import ScriptedShell.Remote.Copy

namespace ScriptedShell.Remote

open Text Terminal LoginWatch

/-! ## The lines on both sides of a cut -/

/-- What stands before the first line break of a text. -/
def firstLine (text : List Char) : List Char := text.takeWhile fun c => !isLineBreak c

/-- The first line and the others. -/
theorem splitBreaks_eq_cons (text : List Char) :
    splitBreaks text = firstLine text :: (splitBreaks text).tail := by
  obtain ⟨rest, hrest⟩ := splitAtEach_eq_cons isLineBreak text
  rw [splitBreaks, hrest]
  rfl

/-- A text has a line. -/
theorem splitBreaks_ne_nil (text : List Char) : splitBreaks text ≠ [] := by
  rw [splitBreaks_eq_cons]
  exact List.cons_ne_nil _ _

/-- The last line and the others. -/
theorem splitBreaks_eq_append (text : List Char) :
    splitBreaks text = (splitBreaks text).dropLast ++ [lastLine text] := by
  rw [lastLine, List.getLast?_eq_getLast_of_ne_nil (splitBreaks_ne_nil text), Option.getD_some,
    List.dropLast_append_getLast]

/-- **The lines of two texts put together**: the last line of the first and the first line of the
second are one. -/
theorem splitBreaks_append (front back : List Char) :
    splitBreaks (front ++ back) =
      (splitBreaks front).dropLast ++
        (lastLine front ++ firstLine back) :: (splitBreaks back).tail := by
  induction front with
  | nil => exact splitBreaks_eq_cons back
  | cons c front ih =>
    have hne := splitBreaks_ne_nil front
    by_cases hc : isLineBreak c = true
    · have hcut (text : List Char) : splitBreaks (c :: text) = [] :: splitBreaks text := if_pos hc
      have hlast : lastLine (c :: front) = lastLine front := by
        rw [lastLine, hcut, List.getLast?_cons_of_ne_nil hne, lastLine]
      rw [List.cons_append, hcut, ih, hlast, hcut, List.dropLast_cons_of_ne_nil hne,
        List.cons_append]
    · -- the character goes to the first line, which is also the last when there is no break
      have hcut {text first : List Char} {rest : List (List Char)}
          (h : splitBreaks text = first :: rest) :
          splitBreaks (c :: text) = (c :: first) :: rest := by
        rw [splitBreaks, splitAtEach, if_neg hc, ← splitBreaks, h]
      obtain ⟨first, rest, hpieces⟩ := List.exists_cons_of_ne_nil hne
      rw [hpieces] at ih
      cases rest with
      | nil =>
        have hlast : lastLine front = first := by rw [lastLine, hpieces]; rfl
        rw [hlast] at ih
        rw [List.cons_append, hcut ih, hcut hpieces, lastLine, hcut hpieces]
        rfl
      | cons second rest =>
        have hlast : lastLine (c :: front) = lastLine front := by
          rw [lastLine, lastLine, hcut hpieces, hpieces, List.getLast?_cons_cons,
            List.getLast?_cons_cons]
        rw [List.cons_append, hcut ih, hcut hpieces, hlast]
        rfl

namespace CopyWatch

/-- The lines of a text that count. -/
def nonblank (lines : List (List Char)) : List (List Char) :=
  (lines.map trim).filter fun l => !l.isEmpty

/-- Lines count one by one. -/
theorem nonblank_append (lines more : List (List Char)) :
    nonblank (lines ++ more) = nonblank lines ++ nonblank more := by
  rw [nonblank, List.map_append, List.filter_append, nonblank, nonblank]

/-- A line that is not blank counts. -/
theorem nonblank_of_not_blank {line : List Char} (h : trim line ≠ []) :
    nonblank [line] = [trim line] := by
  simp [nonblank, h]

/-- Two pieces of a line count as the line does exactly when one of them is blank. -/
theorem nonblank_pieces_iff (front back : List Char) :
    nonblank [front ++ back] = nonblank [front] ++ nonblank [back] ↔
      trim front = [] ∨ trim back = [] := by
  by_cases hfront : trim front = []
  · have htrim := trim_blanks_append (trim_eq_nil_iff.mp hfront) back
    simp [nonblank, hfront, htrim]
  by_cases hback : trim back = []
  · have htrim := trim_append_blanks front (trim_eq_nil_iff.mp hback)
    simp [nonblank, hback, htrim]
  · rw [nonblank_of_not_blank hfront, nonblank_of_not_blank hback]
    constructor
    · -- one line is not two
      intro h
      have hlength := congrArg List.length h
      have hle : (nonblank [front ++ back]).length ≤ 1 := List.length_filter_le _ _
      rw [hlength] at hle
      simp at hle
    · rintro (h | h)
      · exact absurd h hfront
      · exact absurd h hback

/-- Two texts put together have the lines of both that count exactly when the last line of the first
or the first line of the second is blank. -/
theorem nonblank_splitBreaks_append_iff (front back : List Char) :
    nonblank (splitBreaks (front ++ back)) =
        nonblank (splitBreaks front) ++ nonblank (splitBreaks back) ↔
      trim (LoginWatch.lastLine front) = [] ∨ trim (firstLine back) = [] := by
  rw [← nonblank_pieces_iff, splitBreaks_append, splitBreaks_eq_append front,
    splitBreaks_eq_cons back, List.dropLast_concat, List.tail_cons, List.append_cons,
    nonblank_append, nonblank_append, nonblank_append, ← List.singleton_append (x := firstLine back),
    nonblank_append, List.append_assoc, List.append_assoc, List.append_right_inj,
    ← List.append_assoc, List.append_left_inj]

/-! ## Cuts between lines -/

/-- Whether a cut is outside characters and control sequences. -/
def IsClean (front back : List UInt8) : Prop :=
  decodeLossy (front ++ back) = decodeLossy front ++ decodeLossy back ∧
    scanState .plain (decodeLossy front) = .plain

/-- Whether the line before a cut or the line after it is blank. -/
def BesideBlank (front back : List UInt8) : Prop :=
  trim (LoginWatch.lastLine (strip (decodeLossy front))) = [] ∨
    trim (firstLine (strip (decodeLossy back))) = []

/-- Whether a cut is between two lines, outside characters and control sequences. -/
def IsBetweenLines (front back : List UInt8) : Prop := IsClean front back ∧ BesideBlank front back

/-- Whether all cuts that reads make are between two lines, where `before` has been read before. -/
def CutsBetweenLines (before : List UInt8) : List (List UInt8) → Prop
  | [] => True
  | read :: reads => IsBetweenLines before read ∧ CutsBetweenLines (before ++ read) reads

instance (front back : List UInt8) : Decidable (IsBetweenLines front back) :=
  inferInstanceAs (Decidable ((_ ∧ _) ∧ (_ ∨ _)))

instance decidableCutsBetweenLines (before : List UInt8) :
    (reads : List (List UInt8)) → Decidable (CutsBetweenLines before reads)
  | [] => inferInstanceAs (Decidable True)
  | read :: reads =>
    have := decidableCutsBetweenLines (before ++ read) reads
    inferInstanceAs (Decidable (_ ∧ _))

/-- **Which cuts keep the lines.**  Outside characters and control sequences, the lines of two
reads are the lines of both read at once exactly when the cut is between two lines. -/
theorem linesOf_append_iff {front back : List UInt8} (h : IsClean front back) :
    linesOf (front ++ back) = linesOf front ++ linesOf back ↔ BesideBlank front back := by
  obtain ⟨hdecoded, hplain⟩ := h
  have hstrip : strip (decodeLossy (front ++ back)) =
      strip (decodeLossy front) ++ strip (decodeLossy back) := by
    rw [hdecoded, strip, stripFrom_append, hplain, strip, strip]
  rw [linesOf, hstrip]
  exact nonblank_splitBreaks_append_iff _ _

/-! ## Copies -/

/-- Reads that are cut between lines have the lines of all of them read at once. -/
theorem flatMap_linesOf (before : List UInt8) {reads : List (List UInt8)}
    (h : CutsBetweenLines before reads) :
    linesOf before ++ reads.flatMap linesOf = linesOf (before ++ reads.flatten) := by
  induction reads generalizing before with
  | nil => simp
  | cons read reads ih =>
    obtain ⟨⟨hclean, hblank⟩, hrest⟩ := h
    calc linesOf before ++ (read :: reads).flatMap linesOf
        = linesOf before ++ linesOf read ++ reads.flatMap linesOf := by simp
      _ = linesOf (before ++ read) ++ reads.flatMap linesOf := by
        rw [(linesOf_append_iff hclean).mpr hblank]
      _ = linesOf (before ++ read ++ reads.flatten) := ih _ hrest
      _ = linesOf (before ++ (read :: reads).flatten) := by simp

/-- What is seen of reads is what is seen of their lines. -/
theorem readAll_eq_foldl (w : CopyWatch) (reads : List (List UInt8)) :
    w.readAll reads = (reads.flatMap linesOf).foldl line w := by
  rw [List.foldl_flatMap]
  rfl

/-- Of reads that are cut between lines the same is seen as of all of them read at once. -/
theorem readAll_of_cutsBetweenLines (w : CopyWatch) {reads : List (List UInt8)}
    (h : CutsBetweenLines [] reads) : w.readAll reads = w.read reads.flatten := by
  have hlines := flatMap_linesOf [] h
  have hnone : linesOf [] = [] := by rw [linesOf, decodeLossy_nil]; rfl
  rw [hnone, List.nil_append, List.nil_append] at hlines
  rw [readAll_eq_foldl, hlines, read]

end CopyWatch

/-- **A copy comes out the same however its output is cut between lines**: the same is typed, the
same percentages are reported, and it ends the same. -/
theorem runCopy_cutsBetweenLines (settings : RemoteSettings) (spec : TransferSpec)
    (succeeded : Bool) {reads reads' : List (List UInt8)}
    (hsame : reads.flatten = reads'.flatten)
    (hreads : CopyWatch.CutsBetweenLines [] reads)
    (hreads' : CopyWatch.CutsBetweenLines [] reads') :
    runCopy settings spec reads succeeded = runCopy settings spec reads' succeeded := by
  have hwatch (w : CopyWatch) : w.readAll reads = w.readAll reads' := by
    rw [CopyWatch.readAll_of_cutsBetweenLines w hreads,
      CopyWatch.readAll_of_cutsBetweenLines w hreads', hsame]
  have hprogram (path : String) :
      runCopyProgram settings spec.endpoint path reads succeeded =
        runCopyProgram settings spec.endpoint path reads' succeeded := by
    rw [runCopyProgram, runCopyProgram, hwatch]
  rw [runCopy, runCopy, hprogram]

/-- An upload to a scripted host. -/
def scriptedUpload : TransferSpec :=
  { direction := .upload
    endpoint := { host := "box", port := 22, user := "deploy", password := "hunter2" }
    localPath := "/l/f.bin"
    remotePath := "/r/f.bin" }

/-- The bytes of reads. -/
def readsOf (reads : List String) : List (List UInt8) := reads.map fun text => text.toUTF8.toList

/-- The lines of an upload come with three reads or with two. -/
theorem runCopy_cutsBetweenLines_upload :
    let reads := readsOf ["deploy@box's password: ", "\r\nf.bin 10%\r", "f.bin 100%\r\n"]
    let reads' := readsOf ["deploy@box's password: \r", "\nf.bin 10%\rf.bin 100%\r\n"]
    reads.flatten = reads'.flatten ∧ CopyWatch.CutsBetweenLines [] reads ∧
      CopyWatch.CutsBetweenLines [] reads' ∧
      runCopy {} scriptedUpload reads true = runCopy {} scriptedUpload reads' true :=
  ⟨by decide +kernel, by decide +kernel, by decide +kernel,
    runCopy_cutsBetweenLines {} scriptedUpload true (by decide +kernel) (by decide +kernel)
      (by decide +kernel)⟩

/-- **A cut inside a line makes two lines of it.**  Of a percentage that is cut only the end is
reported, a request for the password that is cut is not answered, and of a failure that is cut only
the end is told. -/
theorem runCopy_cut_inside_line :
    (runCopy {} scriptedUpload (readsOf ["f.bin 100%\r\n"]) true).percentages = [100] ∧
      (runCopy {} scriptedUpload (readsOf ["f.bin 10", "0%\r\n"]) true).percentages = [0] ∧
      (runCopy {} scriptedUpload (readsOf ["deploy@box's password: "]) true).typed =
        ["hunter2\r"] ∧
      (runCopy {} scriptedUpload (readsOf ["deploy@box's pass", "word: "]) true).typed = [] ∧
      (runCopy {} scriptedUpload (readsOf ["scp: No such file"]) false).failure =
        some (.transferFailed "/l/f.bin" "scp: No such file") ∧
      (runCopy {} scriptedUpload (readsOf ["scp: No such fi", "le"]) false).failure =
        some (.transferFailed "/l/f.bin" "le") := by
  decide +kernel

end ScriptedShell.Remote
