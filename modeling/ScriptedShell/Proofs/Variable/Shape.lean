/-
# The shape of stores

Variables are declared from the keyed parts of lines.  The key of such a part is a word and its
value is a phrase of words without a dash, whatever the policy (`shape_of_mem_pairs`), so that the
stores made from lines have a shape (`Store.IsShaped`), which declaring and removing variables keep.
-/
import Mathlib
import ScriptedShell.Proofs.Command.Grouping

namespace ScriptedShell.Variable

open Text Command

/-- Whether a text can be the value of a variable: words without a dash, with single spaces between
them. -/
def IsValue (value : String) : Prop := IsPhrase (fun word => startsWith word "-" = false) value

/-- Whether the variables of a store are as lines declare them. -/
structure Store.IsShaped (s : Store) : Prop where
  /-- Keys carry the variable marker. -/
  marked : ∀ entry ∈ s.entries, startsWith entry.1 variableMarker = true
  noBlank : ∀ entry ∈ s.entries, ∀ c ∈ entry.1.toList, isBlank c = false
  distinct : (s.entries.map Prod.fst).Nodup
  value : ∀ entry ∈ s.entries, IsValue entry.2

/-! ## Marking -/

/-- A name that is marked begins with the marker. -/
theorem startsWith_marked (name : String) : startsWith (marked name) variableMarker = true := by
  rw [marked]
  split_ifs with hmarked
  · exact hmarked
  · rw [startsWith, List.isPrefixOf_iff_prefix, String.toList_append]
    exact List.prefix_append _ _

/-- Marking a name adds no blank. -/
theorem not_blank_of_mem_marked {name : String} (hname : ∀ c ∈ name.toList, isBlank c = false) :
    ∀ c ∈ (marked name).toList, isBlank c = false := by
  rw [marked]
  split_ifs
  · exact hname
  · rw [String.toList_append, List.forall_mem_append]
    exact ⟨by simp [variableMarker, isBlank], hname⟩

/-! ## Setting entries -/

section Entries

variable {key value : String} {entries : List (String × String)}

/-- An entry after one has been set is the new one, or was there before. -/
theorem mem_setEntry {entry : String × String} (h : entry ∈ setEntry key value entries) :
    entry = (key, value) ∨ entry ∈ entries := by
  induction entries with
  | nil => exact .inl (List.mem_singleton.mp h)
  | cons first entries ih =>
    rw [setEntry] at h
    split_ifs at h with hkey
    · refine (List.mem_cons.mp h).imp (fun hentry => ?_) (List.mem_cons_of_mem _)
      rw [hentry, ← hkey]
    · rcases List.mem_cons.mp h with rfl | hentry
      · exact .inr List.mem_cons_self
      · exact (ih hentry).imp_right (List.mem_cons_of_mem _)

/-- A known key keeps its place, and an unknown one is put at the end. -/
theorem map_fst_setEntry : (setEntry key value entries).map Prod.fst =
    if key ∈ entries.map Prod.fst then entries.map Prod.fst else entries.map Prod.fst ++ [key] := by
  induction entries with
  | nil => rfl
  | cons first entries ih =>
    rw [setEntry]
    by_cases hkey : first.1 = key
    · simp [hkey]
    · rw [if_neg hkey, List.map_cons, ih, List.map_cons]
      by_cases hmem : key ∈ entries.map Prod.fst
      · rw [if_pos hmem, if_pos (List.mem_cons_of_mem _ hmem)]
      · rw [if_neg hmem, if_neg (by simpa [Ne.symm hkey] using hmem), List.cons_append]

/-- Setting a key puts none there twice. -/
theorem nodup_map_fst_setEntry (h : (entries.map Prod.fst).Nodup) :
    ((setEntry key value entries).map Prod.fst).Nodup := by
  rw [map_fst_setEntry]
  split_ifs with hkey
  · exact h
  · refine List.nodup_append.mpr ⟨h, List.nodup_singleton _, ?_⟩
    intro other hother found hfound
    rw [List.mem_singleton.mp hfound]
    exact ne_of_mem_of_not_mem hother hkey

end Entries

namespace Store.IsShaped

variable {s : Store} {name value : String}

/-- A store without variables. -/
theorem empty : Store.empty.IsShaped := ⟨by simp [Store.empty], by simp [Store.empty],
  List.nodup_nil, by simp [Store.empty]⟩

/-- **Declaring a variable.** -/
theorem declare (h : s.IsShaped) (hname : ∀ c ∈ name.toList, isBlank c = false)
    (hvalue : IsValue value) : (s.declare name value).IsShaped where
  marked entry hentry := by
    rcases mem_setEntry hentry with rfl | hentry
    · exact startsWith_marked name
    · exact h.marked entry hentry
  noBlank entry hentry := by
    rcases mem_setEntry hentry with rfl | hentry
    · exact not_blank_of_mem_marked hname
    · exact h.noBlank entry hentry
  distinct := nodup_map_fst_setEntry h.distinct
  value entry hentry := by
    rcases mem_setEntry hentry with rfl | hentry
    · exact hvalue
    · exact h.value entry hentry

/-- Some of the variables of a store. -/
theorem sublist (h : s.IsShaped) {entries : List (String × String)}
    (hentries : entries.Sublist s.entries) : Store.IsShaped ⟨entries⟩ where
  marked entry hentry := h.marked entry (hentries.subset hentry)
  noBlank entry hentry := h.noBlank entry (hentries.subset hentry)
  distinct := h.distinct.sublist (hentries.map _)
  value entry hentry := h.value entry (hentries.subset hentry)

/-- **Removing a variable.** -/
theorem remove (h : s.IsShaped) (key : String) : (s.remove key).2.IsShaped := by
  rw [Store.remove]
  split
  · exact h
  · exact h.sublist List.eraseP_sublist

/-- Declaring variables one after the other. -/
theorem foldl_declare (h : s.IsShaped) {pairs : List (String × String)}
    (hpairs : ∀ pair ∈ pairs, (∀ c ∈ pair.1.toList, isBlank c = false) ∧ IsValue pair.2) :
    (pairs.foldl (fun store (name, value) => store.declare name value) s).IsShaped := by
  induction pairs generalizing s with
  | nil => exact h
  | cons pair pairs ih =>
    obtain ⟨hname, hvalue⟩ := hpairs pair List.mem_cons_self
    exact ih (h.declare hname hvalue) fun other hother => hpairs other (List.mem_cons_of_mem _ hother)

end Store.IsShaped

/-! ## Lines -/

section Lines

variable (policies : PolicyTable) (text : String)

/-- **The keyed parts of a line**: keys are words, and values are made of words without a dash. -/
theorem shape_of_mem_pairs {key value : String}
    (h : (key, value) ∈ (Line.parse policies text).pairs) :
    IsWord key.toList ∧ IsValue value := by
  have hgrouping := isGrouping_parse policies text
  obtain ⟨part, hargument, hpair⟩ := List.mem_filterMap.mp h
  have hpart := List.mem_of_mem_drop hargument
  obtain ⟨second, rest, hwords, rfl⟩ : ∃ second rest, part.words = key :: second :: rest ∧
      value = String.intercalate " " (second :: rest) := by
    rw [Part.key?, Part.value] at hpair
    rcases hwords : part.words with _ | ⟨first, _ | ⟨second, rest⟩⟩
    all_goals rw [hwords] at hpair
    · cases hpair
    · cases hpair
    · cases hpair
      exact ⟨second, rest, rfl, rfl⟩
  have hword : ∀ word ∈ part.words, IsWord word.toList := by
    intro word hword
    refine isWord_of_mem_wordsOf (s := text) ?_
    rw [← words_parse policies text]
    exact List.mem_flatMap_of_mem hpart hword
  rw [hwords] at hword
  refine ⟨hword key List.mem_cons_self, second :: rest, List.cons_ne_nil _ _, ?_, rfl⟩
  intro word hmem
  refine ⟨hword word (List.mem_cons_of_mem key hmem), ?_⟩
  -- a word after the key has joined the part
  obtain ⟨front, back, hsplit⟩ := List.append_of_mem hmem
  exact (hgrouping.joined part hpart (key :: front) word back
    (by rw [hwords, hsplit, List.cons_append]) (List.cons_ne_nil _ _)).noDash

/-- **The variables that a line declares itself.** -/
theorem isShaped_store : (Line.parse policies text).store.IsShaped := by
  refine Store.IsShaped.empty.foldl_declare fun pair hpair => ?_
  obtain ⟨hkey, hvalue⟩ := shape_of_mem_pairs policies text (List.mem_filter.mp hpair).1
  exact ⟨hkey.2, hvalue⟩

end Lines

end ScriptedShell.Variable
