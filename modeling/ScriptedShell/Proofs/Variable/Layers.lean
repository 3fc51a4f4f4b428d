/-
# Layers as one store

Several stores are read in layers, where the first one that holds a key answers.  Merging goes the
other way round: what is declared last counts.  Layers therefore read as the one store into which
they are merged from the last to the first (`lookup_eq_get?_merged`), since a store holds every key
once and with its marker (`Store.Built.isKeyed`).  References are resolved by looking names up and
in no other way, so that layers which read alike resolve every line alike.
-/
import Mathlib
import ScriptedShell.Proofs.Variable.Shape
import ScriptedShell.Run.FileRun
import ScriptedShell.Variable.Substitution

namespace ScriptedShell.Variable

open Text Command

/-! ## Stores with keys -/

/-- Whether every key of a store is marked, and none is there twice. -/
structure Store.IsKeyed (s : Store) : Prop where
  marked : ∀ entry ∈ s.entries, startsWith entry.1 variableMarker = true
  distinct : (s.entries.map Prod.fst).Nodup

/-- The stores that declaring, removing and merging lead to. -/
inductive Store.Built : Store → Prop
  /-- A new store, or one that has been cleared. -/
  | empty : Built .empty
  | declare {s : Store} (name value : String) : Built s → Built (s.declare name value)
  | remove {s : Store} (key : String) : Built s → Built (s.remove key).2
  | merge {s other : Store} : Built s → Built other → Built (s.merge other)

namespace Store.IsKeyed

variable {s : Store}

/-- Declaring a variable marks its key, and puts it there once. -/
theorem declare (h : s.IsKeyed) (name value : String) : (s.declare name value).IsKeyed where
  marked entry hentry := by
    rcases mem_setEntry hentry with rfl | hentry
    · exact startsWith_marked name
    · exact h.marked entry hentry
  distinct := nodup_map_fst_setEntry h.distinct

/-- Removing a variable leaves the other ones. -/
theorem remove (h : s.IsKeyed) (key : String) : (s.remove key).2.IsKeyed := by
  rw [Store.remove]
  split
  · exact h
  · have hrest : (s.entries.eraseP fun entry => entry.1 = key).Sublist s.entries :=
      List.eraseP_sublist
    exact ⟨fun entry hentry => h.marked entry (hrest.subset hentry),
      h.distinct.sublist (hrest.map Prod.fst)⟩

/-- Merging declares one variable after the other. -/
theorem merge (h : s.IsKeyed) (other : Store) : (s.merge other).IsKeyed := by
  obtain ⟨entries⟩ := other
  rw [Store.merge]
  induction entries generalizing s with
  | nil => exact h
  | cons entry entries ih => exact ih (h.declare entry.1 entry.2)

end Store.IsKeyed

/-- **Every store that comes about has its keys marked, and none twice.** -/
theorem Store.Built.isKeyed {s : Store} (h : s.Built) : s.IsKeyed := by
  induction h with
  | empty => exact ⟨fun entry hentry => absurd hentry List.not_mem_nil, List.nodup_nil⟩
  | declare name value _ ih => exact ih.declare name value
  | remove key _ ih => exact ih.remove key
  | @merge s other _ _ ih _ => exact ih.merge other

/-! ## Reading stores -/

/-- The first entry answers for its key only. -/
theorem lookup_cons_eq (entry : String × String) (entries : List (String × String))
    (other : String) : (entry :: entries).lookup other =
      if other = entry.1 then some entry.2 else entries.lookup other := by
  obtain ⟨key, value⟩ := entry
  rw [List.lookup_cons]
  by_cases hother : other = key
  · rw [if_pos hother, beq_iff_eq.mpr hother]
  · rw [if_neg hother, beq_eq_false_iff_ne.mpr hother]

/-- A key that has been set has its value, and the other keys have theirs. -/
theorem lookup_setEntry (key value other : String) (entries : List (String × String)) :
    (setEntry key value entries).lookup other =
      if other = key then some value else entries.lookup other := by
  induction entries with
  | nil => exact lookup_cons_eq (key, value) [] other
  | cons entry entries ih =>
    rw [setEntry]
    by_cases hkey : entry.1 = key
    · rw [if_pos hkey, lookup_cons_eq, lookup_cons_eq, hkey]
      split_ifs <;> rfl
    · rw [if_neg hkey, lookup_cons_eq, ih, lookup_cons_eq]
      by_cases hother : other = entry.1
      · have hne : other ≠ key := hother ▸ hkey
        rw [if_pos hother, if_pos hother, if_neg hne]
      · rw [if_neg hother, if_neg hother]

/-- A variable that has been declared has its value, and the other variables have theirs. -/
theorem Store.get?_declare (s : Store) (name value other : String) :
    (s.declare name value).get? other =
      if marked other = marked name then some value else s.get? other :=
  lookup_setEntry (marked name) value (marked other) s.entries

/-- **Merging lets the other store answer first.** -/
theorem Store.get?_merge (s : Store) {other : Store} (h : other.IsKeyed) (name : String) :
    (s.merge other).get? name = (other.get? name).or (s.get? name) := by
  obtain ⟨entries⟩ := other
  rw [Store.merge]
  dsimp only
  induction entries generalizing s with
  | nil => rfl
  | cons entry entries ih =>
    have hrest : Store.IsKeyed ⟨entries⟩ :=
      ⟨fun e he => h.marked e (List.mem_cons_of_mem entry he), (List.nodup_cons.mp h.distinct).2⟩
    have hmarked : marked entry.1 = entry.1 := if_pos (h.marked entry List.mem_cons_self)
    have hfirst : Store.get? ⟨entry :: entries⟩ name =
        if marked name = entry.1 then some entry.2 else Store.get? ⟨entries⟩ name :=
      lookup_cons_eq entry entries (marked name)
    rw [List.foldl_cons, ih _ hrest, Store.get?_declare, hmarked, hfirst]
    by_cases hname : marked name = entry.1
    · -- the key is not there a second time, so that nothing after it answers
      have hnone : Store.get? ⟨entries⟩ name = none := by
        rw [Store.get?, List.lookup_eq_none_iff]
        intro e he
        have hne : entry.1 ≠ e.1 := fun heq =>
          (List.nodup_cons.mp h.distinct).1 (heq ▸ List.mem_map_of_mem he)
        simpa [hname] using hne
      rw [if_pos hname, if_pos hname, hnone]
      rfl
    · rw [if_neg hname, if_neg hname]

/-- The store into which layers are merged, from the last one to the first. -/
def Store.merged (layers : List Store) : Store :=
  layers.foldr (fun layer store => store.merge layer) .empty

/-- **Layers read as the store into which they are merged.** -/
theorem lookup_eq_get?_merged {layers : List Store} (h : ∀ layer ∈ layers, layer.IsKeyed)
    (name : String) : lookup name layers = (Store.merged layers).get? name := by
  induction layers with
  | nil => rfl
  | cons layer layers ih =>
    rw [List.forall_mem_cons] at h
    -- the first layer is merged last, so its values replace those of the others
    have hmerged : Store.merged (layer :: layers) = (Store.merged layers).merge layer := rfl
    rw [hmerged, Store.get?_merge _ h.1, ← ih h.2, lookup, lookup, List.findSome?_cons]
    cases layer.get? name <;> rfl

/-- One layer reads as its store. -/
theorem lookup_singleton (name : String) (s : Store) : lookup name [s] = s.get? name := by
  rw [lookup, List.findSome?_cons]
  cases s.get? name <;> rfl

/-! ## Layers that read alike -/

section Alike

variable {layers others : List Store} (halike : ∀ name, lookup name layers = lookup name others)

include halike

/-- A word is resolved by what is looked up. -/
theorem substituteWord_congr (word : String) :
    substituteWord layers word = substituteWord others word := by
  rw [substituteWord, substituteWord, funext halike]

/-- A key is resolved by what is looked up. -/
theorem resolveKey_congr (word : String) : resolveKey layers word = resolveKey others word := by
  rw [resolveKey, resolveKey, halike word]

/-- A line is resolved by what is looked up. -/
theorem substituteLine_congr (line : Line) :
    substituteLine line layers = substituteLine line others := by
  have hwords : substitutedWords line layers = substitutedWords line others := by
    rw [substitutedWords, substitutedWords]
    refine List.map_congr_left fun ⟨word, byKey⟩ _ => ?_
    dsimp only
    rw [substituteWord_congr halike, resolveKey_congr halike]
  rw [substituteLine, substituteLine, hwords]

/-- Required keys are missed by what is looked up. -/
theorem missing?_congr (file : Run.FileRun) : file.missing? layers = file.missing? others := by
  rw [Run.FileRun.missing?, Run.FileRun.missing?]
  simp only [halike]

end Alike

/-! ## The main statement -/

/-- **Layers come to the same as one store.**  Let stores that were built by declaring, removing,
merging and clearing be merged into an empty one, from the last layer to the first.  Every name,
marked or not, has in the layers the value that it has there; lines and words are resolved to the
same text; and a file misses the same required key. -/
theorem layers_read_as_merged (layers : List Store) (hbuilt : ∀ layer ∈ layers, layer.Built) :
    (∀ name, lookup name layers = (Store.merged layers).get? name) ∧
      (∀ policies text, substituteLine (Line.parse policies text) layers =
        substituteLine (Line.parse policies text) [Store.merged layers]) ∧
      (∀ word, substituteWord layers word = substituteWord [Store.merged layers] word) ∧
      ∀ file : Run.FileRun, file.missing? layers = file.missing? [Store.merged layers] := by
  have hvalue : ∀ name, lookup name layers = (Store.merged layers).get? name :=
    lookup_eq_get?_merged fun layer hlayer => (hbuilt layer hlayer).isKeyed
  have halike : ∀ name, lookup name layers = lookup name [Store.merged layers] := by
    intro name
    rw [hvalue, lookup_singleton]
  exact ⟨hvalue, fun policies text => substituteLine_congr halike _, substituteWord_congr halike,
    missing?_congr halike⟩

/-- The variables of a session, and those of a file that declares one of them differently. -/
def sessionOverFile : List Store :=
  [.ofList [("host", "db2"), ("-@user", "deploy")], .ofList [("-@host", "db1"), ("port", "2222")]]

/-- The session's host wins over the file's in the layers and in the merged store, in which the
file's variables come first. -/
theorem layers_read_as_merged_sessionOverFile :
    (∀ layer ∈ sessionOverFile, layer.Built) ∧
      (Store.merged sessionOverFile).toList =
        [("-@host", "db2"), ("-@port", "2222"), ("-@user", "deploy")] ∧
      lookup "host" sessionOverFile = some "db2" ∧
      (∀ name, lookup name sessionOverFile = (Store.merged sessionOverFile).get? name) ∧
      substituteWord sessionOverFile "${user}@{-@host}:{port}" =
        substituteWord [Store.merged sessionOverFile] "${user}@{-@host}:{port}" := by
  have hbuilt : ∀ layer ∈ sessionOverFile, layer.Built := by
    intro layer hlayer
    rw [sessionOverFile, List.mem_cons, List.mem_singleton] at hlayer
    rcases hlayer with rfl | rfl
    · exact .declare _ _ (.declare _ _ .empty)
    · exact .declare _ _ (.declare _ _ .empty)
  have h := layers_read_as_merged sessionOverFile hbuilt
  exact ⟨hbuilt, by decide +kernel, by decide +kernel, h.1, h.2.2.1 _⟩

end ScriptedShell.Variable
