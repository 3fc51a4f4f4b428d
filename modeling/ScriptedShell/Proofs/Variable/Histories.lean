/-
# The history of a store

A store comes about by declaring, removing, merging and clearing, and what it holds can be read off
this history.  A key has the value with which it was declared last, unless it has been removed
since (`mem_entries_iff`), and the keys stand in the order in which they were first declared since
they were last removed (`pairwise_keys`).  Both are inductions from the end of a history, on what
one more change does.
-/
import Mathlib
import ScriptedShell.Proofs.Variable.Layers

namespace ScriptedShell.Variable

open Text Command

/-! ## Histories -/

/-- What can be done to a store. -/
inductive Operation where
  | declare (name value : String)
  | remove (key : String)
  | merge (other : Store)
  | clear
  deriving Repr, DecidableEq

/-- The store after an operation. -/
def Store.apply (s : Store) : Operation → Store
  | .declare name value => s.declare name value
  | .remove key => (s.remove key).2
  | .merge other => s.merge other
  | .clear => .empty

/-- The store that operations make of a new one. -/
def Store.after (operations : List Operation) : Store := operations.foldl Store.apply .empty

/-- The keys of a store, in order. -/
def Store.keys (s : Store) : List String := s.entries.map Prod.fst

/-- What happens to a key. -/
inductive Change where
  | declared (key value : String)
  | removed (key : String)
  | cleared
  deriving Repr, DecidableEq

/-- The changes that an operation makes.  Names get the marker, and merging declares the variables
of the other store in their order. -/
def Operation.changes : Operation → List Change
  | .declare name value => [.declared (marked name) value]
  | .remove key => [.removed key]
  | .merge other => other.entries.map fun (name, value) => .declared (marked name) value
  | .clear => [.cleared]

/-- The history that operations make. -/
def history (operations : List Operation) : List Change := operations.flatMap Operation.changes

namespace Change

/-- Whether a change declares a key. -/
def Declares (c : Change) (key : String) : Prop := ∃ value, c = .declared key value

/-- Whether a key is gone after a change. -/
def Ends : Change → String → Prop
  | .declared _ _, _ => False
  | .removed key, other => key = other
  | .cleared, _ => True

variable {key other value : String}

@[simp] theorem declares_declared : (declared key value).Declares other ↔ key = other := by
  constructor
  · rintro ⟨found, h⟩
    cases h
    rfl
  · rintro rfl
    exact ⟨value, rfl⟩

@[simp] theorem not_declares_removed : ¬(removed key).Declares other := by
  rintro ⟨value, h⟩
  cases h

@[simp] theorem not_declares_cleared : ¬cleared.Declares other := by
  rintro ⟨value, h⟩
  cases h

@[simp] theorem not_ends_declared : ¬(declared key value).Ends other := id

@[simp] theorem ends_removed : (removed key).Ends other ↔ key = other := Iff.rfl

@[simp] theorem ends_cleared : cleared.Ends other := trivial

end Change

/-- Whether a key was last declared with a value, and has not been removed since. -/
def LastDeclared (past : List Change) (key value : String) : Prop :=
  ∃ before after, past = before ++ .declared key value :: after ∧
    ∀ c ∈ after, ¬c.Declares key ∧ ¬c.Ends key

/-- Whether a key has been declared since it was last removed. -/
def IsDeclared (past : List Change) (key : String) : Prop := ∃ value, LastDeclared past key value

/-- Whether a key was declared with the `n`-th change when it was not there, and has not been
removed since: its first declaration since its last removal. -/
def FirstDeclared (past : List Change) (key : String) (n : Nat) : Prop :=
  ∃ before value after, past = before ++ .declared key value :: after ∧ before.length = n ∧
    ¬IsDeclared before key ∧ ∀ c ∈ after, ¬c.Ends key

/-! ## One more change -/

section Concat

variable {past : List Change} {c : Change} {key : String}

/-- Where one more element is put after a list that is split at an element. -/
theorem concat_eq_append_cons_iff {α : Type} {past before after : List α} {c x : α} :
    past ++ [c] = before ++ x :: after ↔
      (past = before ∧ c = x ∧ after = []) ∨
        ∃ back, after = back ++ [c] ∧ past = before ++ x :: back := by
  constructor
  · intro h
    rcases List.eq_nil_or_concat after with rfl | ⟨back, y, rfl⟩
    · obtain ⟨hpast, hc⟩ := List.append_inj' h rfl
      simp at hc
      exact .inl ⟨hpast, hc, rfl⟩
    · rw [List.concat_eq_append, ← List.cons_append, ← List.append_assoc] at h
      obtain ⟨hpast, hc⟩ := List.append_inj' h rfl
      simp at hc
      refine .inr ⟨back, ?_, hpast⟩
      rw [List.concat_eq_append, hc]
  · rintro (⟨rfl, rfl, rfl⟩ | ⟨back, rfl, rfl⟩)
    · rfl
    · simp

/-- The last declaration of a key, with one more change. -/
theorem lastDeclared_concat {value : String} :
    LastDeclared (past ++ [c]) key value ↔
      c = .declared key value ∨ (LastDeclared past key value ∧ ¬c.Declares key ∧ ¬c.Ends key) := by
  constructor
  · rintro ⟨before, after, hsplit, hafter⟩
    rw [concat_eq_append_cons_iff] at hsplit
    rcases hsplit with ⟨-, hc, -⟩ | ⟨back, rfl, hpast⟩
    · exact .inl hc
    · rw [List.forall_mem_append, List.forall_mem_singleton] at hafter
      exact .inr ⟨⟨before, back, hpast, hafter.1⟩, hafter.2⟩
  · rintro (rfl | ⟨⟨before, after, rfl, hafter⟩, hc⟩)
    · exact ⟨past, [], rfl, by simp⟩
    · refine ⟨before, after ++ [c], by simp, ?_⟩
      rw [List.forall_mem_append, List.forall_mem_singleton]
      exact ⟨hafter, hc⟩

/-- Whether a key is declared, with one more change. -/
theorem isDeclared_concat :
    IsDeclared (past ++ [c]) key ↔ c.Declares key ∨ (IsDeclared past key ∧ ¬c.Ends key) := by
  constructor
  · rintro ⟨value, h⟩
    rcases lastDeclared_concat.mp h with hc | ⟨hpast, -, hends⟩
    · exact .inl ⟨value, hc⟩
    · exact .inr ⟨⟨value, hpast⟩, hends⟩
  · intro h
    by_cases hdeclares : c.Declares key
    · obtain ⟨value, hc⟩ := hdeclares
      exact ⟨value, lastDeclared_concat.mpr (.inl hc)⟩
    · obtain ⟨⟨value, hpast⟩, hends⟩ := h.resolve_left hdeclares
      exact ⟨value, lastDeclared_concat.mpr (.inr ⟨hpast, hdeclares, hends⟩)⟩

/-- The first declaration of a key, with one more change. -/
theorem firstDeclared_concat {n : Nat} :
    FirstDeclared (past ++ [c]) key n ↔
      (n = past.length ∧ c.Declares key ∧ ¬IsDeclared past key) ∨
        (FirstDeclared past key n ∧ ¬c.Ends key) := by
  constructor
  · rintro ⟨before, value, after, hsplit, hn, hbefore, hafter⟩
    rw [concat_eq_append_cons_iff] at hsplit
    rcases hsplit with ⟨rfl, hc, -⟩ | ⟨back, rfl, hpast⟩
    · exact .inl ⟨hn.symm, ⟨value, hc⟩, hbefore⟩
    · rw [List.forall_mem_append, List.forall_mem_singleton] at hafter
      exact .inr ⟨⟨before, value, back, hpast, hn, hbefore, hafter.1⟩, hafter.2⟩
  · rintro (⟨rfl, ⟨value, rfl⟩, hpast⟩ | ⟨⟨before, value, after, rfl, hn, hbefore, hafter⟩, hc⟩)
    · exact ⟨past, value, [], rfl, rfl, hpast, by simp⟩
    · refine ⟨before, value, after ++ [c], by simp, hn, hbefore, ?_⟩
      rw [List.forall_mem_append, List.forall_mem_singleton]
      exact ⟨hafter, hc⟩

/-- Nothing is declared by no changes. -/
theorem not_isDeclared_nil : ¬IsDeclared [] key := by
  rintro ⟨value, before, after, hsplit, -⟩
  simp at hsplit

/-- A first declaration is one of the changes. -/
theorem FirstDeclared.lt_length {n : Nat} (h : FirstDeclared past key n) : n < past.length := by
  obtain ⟨before, value, after, rfl, rfl, -⟩ := h
  simp

/-- A key is declared exactly when it has a first declaration. -/
theorem isDeclared_iff_exists_first : IsDeclared past key ↔ ∃ n, FirstDeclared past key n := by
  induction past using List.reverseRecOn with
  | nil =>
    refine iff_of_false not_isDeclared_nil ?_
    rintro ⟨n, h⟩
    have := h.lt_length
    simp at this
  | append_singleton past c ih =>
    simp only [firstDeclared_concat, isDeclared_concat]
    constructor
    · intro h
      by_cases hpast : IsDeclared past key ∧ ¬c.Ends key
      · obtain ⟨n, hn⟩ := ih.mp hpast.1
        exact ⟨n, .inr ⟨hn, hpast.2⟩⟩
      · -- the change declares the key, and does not take it away
        have hc := h.resolve_right hpast
        have hends : ¬c.Ends key := by
          obtain ⟨value, rfl⟩ := hc
          simp
        exact ⟨past.length, .inl ⟨rfl, hc, fun hdeclared => hpast ⟨hdeclared, hends⟩⟩⟩
    · rintro ⟨n, ⟨-, hc, -⟩ | ⟨hn, hends⟩⟩
      · exact .inl hc
      · exact .inr ⟨ih.mpr ⟨n, hn⟩, hends⟩

end Concat

/-! ## Entries with different keys -/

section Entries

variable {key value : String} {entries : List (String × String)}

/-- Entries with different keys are found by their keys. -/
theorem lookup_eq_some_iff_mem (h : (entries.map Prod.fst).Nodup) :
    entries.lookup key = some value ↔ (key, value) ∈ entries := by
  induction entries with
  | nil => simp
  | cons entry entries ih =>
    obtain ⟨first, rest⟩ := List.nodup_cons.mp h
    rw [lookup_cons_eq, List.mem_cons]
    by_cases hkey : key = entry.1
    · -- no other entry has the key
      have hother : (key, value) ∉ entries := by
        intro hmem
        apply first
        rw [← hkey]
        exact List.mem_map_of_mem hmem
      rw [if_pos hkey, or_iff_left hother, Prod.ext_iff]
      simp [hkey, eq_comm]
    · have hne : (key, value) ≠ entry := by
        rintro rfl
        exact hkey rfl
      rw [if_neg hkey, ih rest, or_iff_right hne]

/-- Setting a key puts the value in the place of the entry with that key, if there is one. -/
theorem mem_setEntry_iff (h : (entries.map Prod.fst).Nodup) {entry : String × String} :
    entry ∈ setEntry key value entries ↔
      entry = (key, value) ∨ (entry ∈ entries ∧ entry.1 ≠ key) := by
  obtain ⟨other, found⟩ := entry
  rw [← lookup_eq_some_iff_mem (nodup_map_fst_setEntry h), lookup_setEntry, Prod.ext_iff]
  by_cases hother : other = key
  · simp [hother, eq_comm]
  · simp [hother, lookup_eq_some_iff_mem h]

/-- Leaving out a key that is not there leaves out nothing. -/
theorem filter_ne_eq_self (h : key ∉ entries.map Prod.fst) :
    (entries.filter fun entry => entry.1 ≠ key) = entries := by
  rw [List.filter_eq_self]
  intro entry hentry
  simp only [decide_eq_true_eq]
  rintro rfl
  exact h (List.mem_map_of_mem hentry)

/-- Nothing is found under a key that is not there. -/
theorem lookup_eq_none_iff_not_mem : entries.lookup key = none ↔ key ∉ entries.map Prod.fst := by
  induction entries with
  | nil => simp
  | cons entry entries ih =>
    rw [lookup_cons_eq, List.map_cons, List.mem_cons, not_or, ← ih]
    by_cases hkey : key = entry.1
    · simp [hkey]
    · simp [hkey]

/-- The first entry with a key is the only one. -/
theorem eraseP_eq_filter (h : (entries.map Prod.fst).Nodup) :
    (entries.eraseP fun entry => entry.1 = key) = entries.filter fun entry => entry.1 ≠ key := by
  induction entries with
  | nil => rfl
  | cons entry entries ih =>
    obtain ⟨first, rest⟩ := List.nodup_cons.mp h
    by_cases hkey : entry.1 = key
    · rw [List.eraseP_cons_of_pos (by simpa using hkey),
        List.filter_cons_of_neg (by simpa using hkey), filter_ne_eq_self (hkey ▸ first)]
    · rw [List.eraseP_cons_of_neg (by simpa using hkey),
        List.filter_cons_of_pos (by simpa using hkey), ih rest]

end Entries

namespace Store

variable {s : Store} {key : String}

/-- Removing a key that is not there changes nothing. -/
theorem remove_of_not_mem (h : key ∉ s.keys) : s.remove key = (none, s) := by
  unfold remove
  rw [lookup_eq_none_iff_not_mem.mpr h]

/-- What a removal gives, and what it leaves. -/
theorem remove_eq (h : s.keys.Nodup) (key : String) :
    s.remove key = (s.entries.lookup key, ⟨s.entries.filter fun entry => entry.1 ≠ key⟩) := by
  cases hfound : s.entries.lookup key with
  | some value =>
    unfold remove
    rw [hfound, ← eraseP_eq_filter h]
  | none =>
    have hkey : key ∉ s.keys := lookup_eq_none_iff_not_mem.mp hfound
    rw [remove_of_not_mem hkey, filter_ne_eq_self hkey]

/-- A variable is there exactly when its key is. -/
theorem contains_iff_mem_keys (name : String) :
    s.contains name = true ↔ marked name ∈ s.keys := by
  unfold contains get? keys
  rw [Option.isSome_iff_ne_none, ne_eq, lookup_eq_none_iff_not_mem, not_not]

/-- The key of a variable that is not there is not there. -/
theorem not_mem_keys_of_not_contains {name : String} (h : s.contains name = false) :
    marked name ∉ s.keys := by
  rw [← contains_iff_mem_keys, h]
  exact Bool.false_ne_true

/-- A variable that is declared anew is put at the end. -/
theorem declare_of_not_contains {name : String} (h : s.contains name = false) (value : String) :
    s.declare name value = ⟨s.entries ++ [(marked name, value)]⟩ := by
  have hset : ∀ entries : List (String × String), marked name ∉ entries.map Prod.fst →
      setEntry (marked name) value entries = entries ++ [(marked name, value)] := by
    intro entries hentries
    induction entries with
    | nil => rfl
    | cons entry entries ih =>
      simp only [List.map_cons, List.mem_cons, not_or] at hentries
      rw [setEntry, if_neg (Ne.symm hentries.1), ih hentries.2, List.cons_append]
  rw [declare, hset s.entries (not_mem_keys_of_not_contains h)]

/-! ## Stores after changes -/

/-- The store after a change. -/
def change (s : Store) : Change → Store
  | .declared key value => ⟨setEntry key value s.entries⟩
  | .removed key => (s.remove key).2
  | .cleared => .empty

/-- The store that changes make of a new one. -/
def ofChanges (past : List Change) : Store := past.foldl change .empty

/-- One more change. -/
theorem ofChanges_concat (past : List Change) (c : Change) :
    ofChanges (past ++ [c]) = (ofChanges past).change c := by
  unfold ofChanges
  rw [List.foldl_concat]

/-- An operation makes its changes. -/
theorem apply_eq_foldl (s : Store) (operation : Operation) :
    s.apply operation = operation.changes.foldl change s := by
  cases operation with
  | declare name value => rfl
  | remove key => rfl
  | merge other =>
    show s.merge other = (other.entries.map _).foldl change s
    rw [List.foldl_map]
    rfl
  | clear => rfl

/-- Operations make their history. -/
theorem after_eq_ofChanges (operations : List Operation) :
    after operations = ofChanges (history operations) := by
  unfold after ofChanges history
  rw [List.foldl_flatMap]
  congr 1
  funext s operation
  exact apply_eq_foldl s operation

/-- Keys after changes are different. -/
theorem nodup_keys (past : List Change) : (ofChanges past).keys.Nodup := by
  induction past using List.reverseRecOn with
  | nil => exact List.nodup_nil
  | append_singleton past c ih =>
    rw [ofChanges_concat]
    cases c with
    | declared key value => exact nodup_map_fst_setEntry ih
    | removed key =>
      show (((ofChanges past).remove key).2.entries.map Prod.fst).Nodup
      rw [remove_eq ih]
      exact ih.sublist (List.filter_sublist.map Prod.fst)
    | cleared => exact List.nodup_nil

/-- **What a store holds**: each key that has been declared since it was last removed, with the
value that was declared last. -/
theorem mem_entries_iff {past : List Change} {value : String} :
    (key, value) ∈ (ofChanges past).entries ↔ LastDeclared past key value := by
  induction past using List.reverseRecOn with
  | nil =>
    refine iff_of_false List.not_mem_nil ?_
    exact fun h => not_isDeclared_nil ⟨value, h⟩
  | append_singleton past c ih =>
    rw [ofChanges_concat, lastDeclared_concat, ← ih]
    cases c with
    | declared other found =>
      show _ ∈ setEntry other found _ ↔ _
      rw [mem_setEntry_iff (nodup_keys past)]
      simp [eq_comm]
    | removed other =>
      show _ ∈ ((ofChanges past).remove other).2.entries ↔ _
      rw [remove_eq (nodup_keys past), List.mem_filter]
      simp [ne_comm]
    | cleared =>
      show _ ∈ Store.empty.entries ↔ _
      simp [Store.empty]

/-- A store holds the keys that are declared. -/
theorem mem_keys_iff {past : List Change} : key ∈ (ofChanges past).keys ↔ IsDeclared past key := by
  unfold keys IsDeclared
  simp only [List.mem_map, Prod.exists, exists_and_right, exists_eq_right, mem_entries_iff]

/-- **The order of a store**: keys stand in the order of their first declarations since they were
last removed. -/
theorem pairwise_keys (past : List Change) :
    (ofChanges past).keys.Pairwise fun key key' =>
      ∀ n n', FirstDeclared past key n → FirstDeclared past key' n' → n < n' := by
  induction past using List.reverseRecOn with
  | nil => exact List.Pairwise.nil
  | append_singleton past c ih =>
    -- a key that was there before the change has the first declaration that it had
    have hold : ∀ {key n}, key ∈ (ofChanges past).keys → FirstDeclared (past ++ [c]) key n →
        FirstDeclared past key n := by
      intro key n hkey hn
      rcases firstDeclared_concat.mp hn with ⟨-, -, habsent⟩ | ⟨hpast, -⟩
      · exact absurd (mem_keys_iff.mp hkey) habsent
      · exact hpast
    have hkept : (ofChanges past).keys.Pairwise fun key key' =>
        ∀ n n', FirstDeclared (past ++ [c]) key n → FirstDeclared (past ++ [c]) key' n' →
          n < n' := by
      refine ih.imp_of_mem ?_
      intro key key' hkey hkey' hlt n n' hn hn'
      exact hlt n n' (hold hkey hn) (hold hkey' hn')
    rw [ofChanges_concat]
    cases c with
    | declared key value =>
      show ((setEntry key value (ofChanges past).entries).map Prod.fst).Pairwise _
      rw [map_fst_setEntry]
      split_ifs with hkey
      · exact hkept
      · refine List.pairwise_append.mpr ⟨hkept, List.pairwise_singleton _ _, ?_⟩
        intro other hother found hfound n n' hn hn'
        rw [List.mem_singleton.mp hfound] at hn'
        have hlt := (hold hother hn).lt_length
        -- the new key comes with the last change
        rcases firstDeclared_concat.mp hn' with ⟨rfl, -⟩ | ⟨hpast, -⟩
        · exact hlt
        · exact absurd (mem_keys_iff.mpr (isDeclared_iff_exists_first.mpr ⟨n', hpast⟩)) hkey
    | removed key =>
      show (((ofChanges past).remove key).2.entries.map Prod.fst).Pairwise _
      rw [remove_eq (nodup_keys past)]
      exact hkept.sublist (List.filter_sublist.map Prod.fst)
    | cleared => exact List.Pairwise.nil

/-- The keys after operations carry the marker. -/
theorem isKeyed_after (operations : List Operation) : (after operations).IsKeyed := by
  induction operations using List.reverseRecOn with
  | nil => exact Built.empty.isKeyed
  | append_singleton operations operation ih =>
    have hlast : after (operations ++ [operation]) = (after operations).apply operation := by
      unfold after
      rw [List.foldl_concat]
    rw [hlast]
    cases operation with
    | declare name value => exact ih.declare name value
    | remove key => exact ih.remove key
    | merge other => exact ih.merge other
    | clear => exact Built.empty.isKeyed

end Store

/-! ## The main statement -/

/-- **A store is a map in the order of insertion.**  After any operations on a new store its keys
carry the marker, and none is there twice.  A name has the value that its key was last declared
with, and none if its key has not been declared since it was last removed.  Removing a key takes
away the entry with exactly that key, if there is one, and nothing else.  Keys stand in the order of
their first declarations since they were last removed, and keep their place when they are declared
again.  A variable that is declared where there was none and removed by its key leaves the store
that was there before. -/
theorem insertion_ordered_map (operations : List Operation) :
    let s := Store.after operations
    let past := history operations
    (s.keys.Nodup ∧ ∀ key ∈ s.keys, startsWith key variableMarker = true) ∧
      (∀ name value, s.get? name = some value ↔ LastDeclared past (marked name) value) ∧
      (∀ name, s.contains name = true ↔ IsDeclared past (marked name)) ∧
      (∀ key, s.remove key =
        (s.entries.lookup key, ⟨s.entries.filter fun entry => entry.1 ≠ key⟩)) ∧
      (∀ key, key ∉ s.keys → s.remove key = (none, s)) ∧
      (∀ key, key ∈ s.keys ↔ ∃ n, FirstDeclared past key n) ∧
      (s.keys.Pairwise fun key key' =>
        ∀ n n', FirstDeclared past key n → FirstDeclared past key' n' → n < n') ∧
      (∀ name value, s.contains name = true → (s.declare name value).keys = s.keys) ∧
      ∀ name value, s.contains name = false →
        (s.declare name value).remove (marked name) = (some value, s) := by
  intro s past
  have hs : s = Store.ofChanges past := Store.after_eq_ofChanges operations
  have hkeyed : s.IsKeyed := Store.isKeyed_after operations
  have hget : ∀ name value, s.get? name = some value ↔ LastDeclared past (marked name) value := by
    intro name value
    rw [← Store.mem_entries_iff, ← hs]
    exact lookup_eq_some_iff_mem hkeyed.distinct
  refine ⟨⟨hkeyed.distinct, ?_⟩, hget, ?_, Store.remove_eq hkeyed.distinct,
    fun key hkey => Store.remove_of_not_mem hkey, ?_, ?_, ?_, ?_⟩
  · intro key hkey
    obtain ⟨entry, hentry, rfl⟩ := List.mem_map.mp hkey
    exact hkeyed.marked entry hentry
  · intro name
    rw [Store.contains_iff_mem_keys, hs, Store.mem_keys_iff]
  · intro key
    rw [hs, Store.mem_keys_iff, isDeclared_iff_exists_first]
  · rw [hs]
    exact Store.pairwise_keys past
  · intro name value hname
    show (setEntry (marked name) value s.entries).map Prod.fst = s.keys
    rw [map_fst_setEntry]
    exact if_pos ((Store.contains_iff_mem_keys name).mp hname)
  · intro name value hname
    have hkeys : ((s.declare name value).keys).Nodup := (hkeyed.declare name value).distinct
    have hvalue : (s.declare name value).entries.lookup (marked name) = some value := by
      show (setEntry (marked name) value s.entries).lookup (marked name) = some value
      rw [lookup_setEntry, if_pos rfl]
    have hothers : (s.declare name value).entries.filter (fun entry => entry.1 ≠ marked name) =
        s.entries := by
      rw [Store.declare_of_not_contains hname, List.filter_append,
        filter_ne_eq_self (Store.not_mem_keys_of_not_contains hname)]
      simp
    rw [Store.remove_eq hkeys, hvalue, hothers]

/-- Variables that are declared, merged, declared again and removed. -/
def tidied : List Operation :=
  [.declare "host" "db1", .declare "-@port" "22", .merge ⟨[("user", "root"), ("port", "2222")]⟩,
    .declare "-@host" "db2", .remove "user", .remove "-@port", .declare "port" "23"]

/-- The host keeps its place and gets the new value, the name without the marker removes nothing,
and the port that was removed is put at the end. -/
theorem insertion_ordered_map_tidied :
    (Store.after tidied).toList = [("-@host", "db2"), ("-@user", "root"), ("-@port", "23")] ∧
      "user" ∉ (Store.after tidied).keys ∧
      (Store.after tidied).remove "user" = (none, Store.after tidied) ∧
      (Store.after tidied).contains "host" = true ∧
      ((Store.after tidied).declare "host" "db3").keys = (Store.after tidied).keys ∧
      (Store.after tidied).contains "mode" = false ∧
      ((Store.after tidied).declare "mode" "fast").remove (marked "mode") =
        (some "fast", Store.after tidied) := by
  obtain ⟨-, -, -, -, hremove, -, -, hagain, hundone⟩ := insertion_ordered_map tidied
  have huser : "user" ∉ (Store.after tidied).keys := by decide +kernel
  have hhost : (Store.after tidied).contains "host" = true := by decide +kernel
  have hmode : (Store.after tidied).contains "mode" = false := by decide +kernel
  exact ⟨by decide +kernel, huser, hremove "user" huser, hhost, hagain "host" "db3" hhost, hmode,
    hundone "mode" "fast" hmode⟩

end ScriptedShell.Variable
