/-
# Changing the directory

The engine reads a script that begins with `cd` as one that changes its directory, unless a
character in it sets scripts apart, and takes the rest for a target: blanks and quotes at its ends
do not count, and a mark for the user's own directory at its front does.  A path that is put behind
`cd` is therefore not always the one that is meant.  An absolute one is, unless it has such a
character in it or ends with a blank or a quote (`directory_invoke_cd_absolute`, `IsPlainPath.withoutEnd_eq`).
-/
import Mathlib
import ScriptedShell.Local.Engine
import ScriptedShell.Proofs.Text.Trim

namespace ScriptedShell.Local

open Text Files

/-! ## What is read behind `cd` -/

/-- The target that is read when a path is put behind `cd`; none if the path sets scripts apart. -/
def targetOf? (path : String) : Option String :=
  if (trim path.toList).any isScriptBreak then none
  else some (if (trim path.toList).isEmpty then homeMark else String.ofList (trim path.toList))

/-- Whether a path has a character in it that sets scripts apart. -/
def HasBreak (path : String) : Prop := path.toList.any isScriptBreak = true

instance (path : String) : Decidable (HasBreak path) :=
  inferInstanceAs (Decidable (path.toList.any isScriptBreak = true))

/-- A path without the blanks at its end and then the quotes there. -/
def withoutEnd (path : String) : String :=
  String.ofList (dropEndWhile isQuote (trimEnd path.toList))

/-- Whether a path says what it means behind `cd`: it has no character that sets scripts apart, and
its last one is neither a blank nor a quote. -/
structure IsPlainPath (path : String) : Prop where
  noBreak : ¬HasBreak path
  last : ∀ c ∈ path.toList.getLast?, isBlank c = false ∧ isQuote c = false

/-- **A script made of `cd` and a path changes the directory to the target that is read.**  By
induction from the end of the path: blanks there do not count. -/
theorem directoryTarget?_cd (path : String) :
    directoryTarget? (trimmed ("cd " ++ path)) = targetOf? path := by
  have hchars : ∀ cs : List Char, directoryTarget? (String.ofList (trim ("cd ".toList ++ cs))) =
      if (trim cs).any isScriptBreak then none
      else some (if (trim cs).isEmpty then homeMark else String.ofList (trim cs)) := by
    intro cs
    induction cs using List.reverseRecOn with
    | nil => decide
    | append_singleton cs c ih =>
      by_cases hc : isBlank c = true
      · have hblank : ∀ d ∈ [c], isBlank d = true := List.forall_mem_singleton.mpr hc
        rw [← List.append_assoc, trim_append_blanks _ hblank, trim_append_blanks _ hblank, ih]
      · -- nothing is cut off the script, and the path is all that follows the blank
        have hscript : trim ("cd ".toList ++ (cs ++ [c])) = 'c' :: 'd' :: ' ' :: (cs ++ [c]) := by
          rw [← List.append_assoc]
          exact List.rdropWhile_concat_neg isBlank ("cd ".toList ++ cs) c hc
        unfold directoryTarget?
        rw [hscript, String.toList_ofList]
        rfl
  rw [trimmed, String.toList_append, hchars, targetOf?]

/-! ## Absolute paths -/

section Absolute

variable {path : String}

/-- Cutting the end of a text leaves its first character, if that one is not cut. -/
theorem dropEndWhile_cons {p : Char → Bool} {c : Char} (hc : p c = false) (cs : List Char) :
    dropEndWhile p (c :: cs) = c :: dropEndWhile p cs := by
  have hkept : ¬p c = true := by simp [hc]
  induction cs using List.reverseRecOn with
  | nil => exact List.rdropWhile_concat_neg p [] c hkept
  | append_singleton cs d ih =>
    rw [← List.cons_append]
    by_cases hd : p d = true
    · exact (List.rdropWhile_concat_pos p (c :: cs) d hd).trans
        (ih.trans (congrArg (c :: ·) (List.rdropWhile_concat_pos p cs d hd).symm))
    · exact (List.rdropWhile_concat_neg p (c :: cs) d hd).trans
        (congrArg (c :: ·) (List.rdropWhile_concat_neg p cs d hd).symm)

/-- An absolute path begins with a slash. -/
theorem exists_toList_of_isAbsolute (h : Path.isAbsolute path = true) :
    ∃ rest, path.toList = '/' :: rest := by
  rw [Path.isAbsolute, startsWith, List.isPrefixOf_iff_prefix] at h
  obtain ⟨rest, hrest⟩ := h
  exact ⟨rest, hrest.symm⟩

/-- The front of an absolute path is not trimmed. -/
theorem trim_of_isAbsolute (h : Path.isAbsolute path = true) :
    trim path.toList = trimEnd path.toList := by
  obtain ⟨rest, hrest⟩ := exists_toList_of_isAbsolute h
  rw [trim, hrest, List.dropWhile_cons_of_neg (by decide)]

/-- What is left of an absolute path is absolute. -/
theorem exists_withoutEnd (h : Path.isAbsolute path = true) :
    ∃ rest, (withoutEnd path).toList = '/' :: rest := by
  obtain ⟨rest, hrest⟩ := exists_toList_of_isAbsolute h
  refine ⟨dropEndWhile isQuote (trimEnd rest), ?_⟩
  rw [withoutEnd, String.toList_ofList, hrest, trimEnd, dropEndWhile_cons (by decide),
    dropEndWhile_cons (by decide)]
  rfl

/-- An absolute path that is trimmed is resolved to what is left of it without quotes, wherever it
is resolved. -/
theorem resolveTarget_of_isAbsolute (h : Path.isAbsolute path = true) (home : Option String)
    (base : String) :
    resolveTarget home base (String.ofList (trim path.toList)) = withoutEnd path := by
  obtain ⟨rest, hrest⟩ := exists_toList_of_isAbsolute h
  obtain ⟨kept, hkept⟩ := exists_withoutEnd h
  have hpath : String.ofList (dropEndWhile isQuote
      ((String.ofList (trim path.toList)).toList.dropWhile isQuote)) = withoutEnd path := by
    rw [String.toList_ofList, trim_of_isAbsolute h, withoutEnd, hrest, trimEnd,
      dropEndWhile_cons (by decide), List.dropWhile_cons_of_neg (by decide)]
  have habsolute : Path.isAbsolute (withoutEnd path) = true := by
    rw [Path.isAbsolute, startsWith, hkept]
    rfl
  have hjoined : Path.join base (withoutEnd path) = withoutEnd path := by
    rw [Path.join, habsolute, Bool.true_or, if_pos rfl]
  unfold resolveTarget
  rw [hpath]
  dsimp only
  rw [hkept]
  exact hjoined

/-- A character that sets scripts apart is no blank. -/
theorem not_isBlank_of_isScriptBreak {c : Char} (h : isScriptBreak c = true) :
    isBlank c = false := by
  simp only [isScriptBreak, Bool.or_eq_true, decide_eq_true_eq] at h
  rcases h with (rfl | rfl) | rfl <;> decide

/-- The target of an absolute path. -/
theorem targetOf?_of_isAbsolute (h : Path.isAbsolute path = true) :
    targetOf? path =
      if HasBreak path then none else some (String.ofList (trim path.toList)) := by
  have hbreaks : (trim path.toList).any isScriptBreak = path.toList.any isScriptBreak := by
    rw [Bool.eq_iff_iff, List.any_eq_true, List.any_eq_true]
    constructor
    · rintro ⟨c, hc, hbreak⟩
      exact ⟨c, mem_of_mem_trim hc, hbreak⟩
    · rintro ⟨c, hc, hbreak⟩
      exact ⟨c, mem_trim (not_isBlank_of_isScriptBreak hbreak) hc, hbreak⟩
  obtain ⟨rest, hrest⟩ := exists_toList_of_isAbsolute h
  have hsome : (trim path.toList).isEmpty = false := by
    rw [trim_of_isAbsolute h, hrest, trimEnd, dropEndWhile_cons (by decide)]
    rfl
  rw [targetOf?, hbreaks, hsome]
  rfl

/-- A path that says what it means is left as it is. -/
theorem IsPlainPath.withoutEnd_eq (h : IsPlainPath path) : withoutEnd path = path := by
  have hlast : ∀ hne : path.toList ≠ [], isBlank (path.toList.getLast hne) = false ∧
      isQuote (path.toList.getLast hne) = false :=
    fun hne => h.last _ (List.getLast?_eq_getLast_of_ne_nil hne)
  have hblank : trimEnd path.toList = path.toList :=
    List.rdropWhile_eq_self_iff.mpr fun hne => by simp [(hlast hne).1]
  have hquote : dropEndWhile isQuote path.toList = path.toList :=
    List.rdropWhile_eq_self_iff.mpr fun hne => by simp [(hlast hne).2]
  rw [withoutEnd, hblank, hquote, String.ofList_toList]

end Absolute

/-! ## The engine -/

namespace Engine

variable (e : Engine) (spawn : Spawner) (m : Machine)

/-- Where the engine is after a script made of `cd` and a path: in the directory to which the target
leads, or where it was. -/
theorem directory_invoke_cd (path : String) :
    (e.invoke spawn m ("cd " ++ path)).2.1.directory =
      ((targetOf? path).bind fun target =>
        m.directory? (resolveTarget m.home? e.directory target)).getD e.directory := by
  rw [invoke, directoryTarget?_cd]
  cases targetOf? path with
  | none => rfl
  | some target =>
    dsimp only [Option.bind_some]
    unfold changeDirectory
    split
    · next directory hdirectory => rw [hdirectory]; rfl
    · next hnone => rw [hnone]; rfl

/-- Where the engine is after a script made of `cd` and an absolute path. -/
theorem directory_invoke_cd_absolute {path : String} (h : Path.isAbsolute path = true) :
    (e.invoke spawn m ("cd " ++ path)).2.1.directory =
      if HasBreak path then e.directory else (m.directory? (withoutEnd path)).getD e.directory := by
  rw [directory_invoke_cd, targetOf?_of_isAbsolute h]
  split_ifs
  · rfl
  · rw [Option.bind_some, resolveTarget_of_isAbsolute h]

end Engine

end ScriptedShell.Local
