/-
# Names in braces

A word that is made of literal text and of names in braces, all of them declared, is resolved to the
same text with the values in place of the names; whatever is in a value stays as it is.  A dollar
sign in front of the word is dropped.  The one exception is a word that begins with a name in
braces: the dollar sign that is dropped is then looked for in front of what the word is resolved to,
where it belongs to a value or to the text after it (`substituteWord_filled_iff`).
-/
import Mathlib
import ScriptedShell.Proofs.Text.Searching
import ScriptedShell.Proofs.Variable.References

namespace ScriptedShell.Variable

open Text Command

/-! ## Words with slots -/

/-- A place in a word for a value: the name in braces there, its value, and the literal text that
follows. -/
structure Slot where
  name : String
  value : String
  literal : String

/-- Whether a text is literal: no name in braces begins in it, and it holds no beginning of a
call. -/
def IsLiteral (text : String) : Prop :=
  '\x7b' ∉ text.toList ∧ ¬callReference.opening <:+: text.toList

instance (text : String) : Decidable (IsLiteral text) := inferInstanceAs (Decidable (_ ∧ ¬_))

/-- Whether the name of a slot can stand in braces and has the value of the slot, and no reference
begins in the text after it. -/
structure Slot.IsDeclared (layers : List Store) (slot : Slot) : Prop where
  name : braceReference.IsName slot.name.toList
  value : lookup slot.name layers = some slot.value
  literal : IsLiteral slot.literal

/-- The text of slots as it is written, with the names in braces. -/
def written (slots : List Slot) : List Char :=
  slots.flatMap fun slot => braceReference.write slot.name.toList slot.literal.toList

/-- The text of slots with the values in place. -/
def filled (slots : List Slot) : List Char :=
  slots.flatMap fun slot => slot.value.toList ++ slot.literal.toList

section Slots

variable {layers : List Store} {slots : List Slot} {front : List Char}

/-- The first slot, and those after it. -/
theorem written_cons (slot : Slot) (slots : List Slot) :
    written (slot :: slots) =
      braceReference.write slot.name.toList (slot.literal.toList ++ written slots) := by
  simp [written, Reference.write]

/-- Before the first slot nothing is resolved. -/
theorem resolve_literal_append (value? : String → Option String) (hfront : '\x7b' ∉ front)
    (rest : List Char) :
    braceReference.resolve value? (front ++ rest) =
      (front ++ (braceReference.resolve value? rest).1, (braceReference.resolve value? rest).2) := by
  induction front with
  | nil => rfl
  | cons c front ih =>
    rw [List.mem_cons, not_or] at hfront
    have hnone : braceReference.read? (c :: (front ++ rest)) = none := by
      refine if_neg fun hopens => hfront.1 ?_
      exact (List.cons_prefix_cons.mp (List.isPrefixOf_iff_prefix.mp hopens)).1
    rw [List.cons_append, Reference.resolve_cons hnone, ih hfront.2, List.cons_append]

/-- **Slots are filled with their values**, as many as there are. -/
theorem resolve_written (hslots : ∀ slot ∈ slots, slot.IsDeclared layers)
    (hfront : '\x7b' ∉ front) :
    braceReference.resolve (fun name => lookup name layers) (front ++ written slots) =
      (front ++ filled slots, slots.length) := by
  induction slots generalizing front with
  | nil =>
    rw [resolve_literal_append _ hfront]
    simp [written, filled, Reference.resolve]
  | cons slot slots ih =>
    obtain ⟨hslot, hslots⟩ := List.forall_mem_cons.mp hslots
    rw [resolve_literal_append _ hfront, written_cons,
      Reference.resolve_reference closing_braceReference (by decide) hslot.name,
      String.ofList_toList, hslot.value, ih hslots hslot.literal.1]
    simp [filled]

/-- Literal texts and names in braces hold no beginning of a call, not even across their ends: there
is a brace between them. -/
theorem not_call_written (hslots : ∀ slot ∈ slots, slot.IsDeclared layers)
    (hfront : ¬callReference.opening <:+: front) :
    ¬callReference.opening <:+: front ++ written slots := by
  induction slots generalizing front with
  | nil => simpa [written] using hfront
  | cons slot slots ih =>
    obtain ⟨hslot, hslots⟩ := List.forall_mem_cons.mp hslots
    have hopen : '\x7b' ∉ callReference.opening := by decide
    have hclose : '\x7d' ∉ callReference.opening := by decide
    have hname : ¬callReference.opening <:+: slot.name.toList := by
      intro hinfix
      have hparen : '(' ∈ slot.name.toList := hinfix.subset (by decide)
      exact absurd (hslot.name.2 _ hparen) (by decide)
    rw [written_cons, Reference.write]
    intro hinfix
    rcases (infix_append_cons hopen).mp hinfix with hinfix | hinfix
    · exact hfront hinfix
    · rcases (infix_append_cons hclose).mp hinfix with hinfix | hinfix
      · exact hname hinfix
      · exact ih hslots hslot.literal.2 hinfix

/-- A text without the beginning of a call holds no call. -/
theorem resolve_calls_eq_self {cs : List Char} (value? : String → Option String)
    (hcs : ¬callReference.opening <:+: cs) : callReference.resolve value? cs = (cs, 0) := by
  refine Reference.resolve_unresolved closing_callReference (by decide) cs fun name hholds => ?_
  obtain ⟨-, before, after, rfl⟩ := hholds
  exact absurd ⟨before, name ++ callReference.closing :: after, by simp [Reference.write]⟩ hcs

end Slots

/-! ## What words with slots are resolved to -/

/-- The word that literal text and slots make. -/
def wordOf (front : String) (slots : List Slot) : String :=
  String.ofList (front.toList ++ written slots)

/-- A dollar sign in front of a text that is not empty is that of the text. -/
theorem withoutDollar_append {front : List Char} (hfront : front ≠ []) (count : Nat)
    (rest : List Char) :
    withoutDollar count (front ++ rest) = withoutDollar count front ++ rest := by
  obtain ⟨c, front, rfl⟩ := List.exists_cons_of_ne_nil hfront
  by_cases hc : c = '$'
  · subst hc
    rw [List.cons_append, withoutDollar, withoutDollar]
    split_ifs <;> rfl
  · have hne (text : List Char) (rest : List Char) : c :: text ≠ '$' :: rest :=
      fun heq => hc (List.cons.inj heq).1
    rw [List.cons_append, withoutDollar_of_ne (hne _), withoutDollar_of_ne (hne _),
      List.cons_append]

/-- Where something was resolved, a text stays exactly when it has no dollar sign in front. -/
theorem withoutDollar_eq_self_iff {count : Nat} (hcount : 0 < count) (text : List Char) :
    withoutDollar count text = text ↔ text.head? ≠ some '$' := by
  cases text with
  | nil => exact iff_of_true rfl (by simp)
  | cons c text =>
    by_cases hc : c = '$'
    · subst hc
      rw [withoutDollar, if_pos hcount]
      exact iff_of_false (List.cons_ne_self _ _).symm (by simp)
    · exact iff_of_true (withoutDollar_of_ne (fun rest heq => hc (List.cons.inj heq).1) count)
        (by simpa using hc)

/-- What a word with slots is resolved to. -/
theorem substituteWord_wordOf {layers : List Store} {front : String} {slots : List Slot}
    (hfront : IsLiteral front) (hslots : ∀ slot ∈ slots, slot.IsDeclared layers) :
    substituteWord layers (wordOf front slots) =
      String.ofList (withoutDollar slots.length (front.toList ++ filled slots)) := by
  have hcalls : callReference.resolve (fun name => lookup name layers)
      (wordOf front slots).toList = (front.toList ++ written slots, 0) := by
    rw [wordOf, String.toList_ofList]
    exact resolve_calls_eq_self _ (not_call_written hslots hfront.2)
  exact substituteWord_of_resolved hcalls (resolve_written hslots hfront.1)

/-- **Which words take their values in verbatim.**  A word of literal text and declared names in
braces is resolved to the same text with the values in place of the names, and without a dollar sign
in front of its literal text, exactly when there is literal text before the first name, or what the
names and the text after them are resolved to has no dollar sign in front. -/
theorem substituteWord_filled_iff {layers : List Store} {front : String} {slots : List Slot}
    (hfront : IsLiteral front) (hslots : ∀ slot ∈ slots, slot.IsDeclared layers)
    (hne : slots ≠ []) :
    substituteWord layers (wordOf front slots) =
        String.ofList (withoutDollar slots.length front.toList ++ filled slots) ↔
      (front = "" → (filled slots).head? ≠ some '$') := by
  rw [substituteWord_wordOf hfront hslots, String.ofList_inj]
  by_cases hempty : front = ""
  · subst hempty
    have hnone : withoutDollar slots.length "".toList = [] := rfl
    rw [hnone, String.toList_empty, List.nil_append,
      withoutDollar_eq_self_iff (List.length_pos_iff.mpr hne), forall_prop_of_true rfl]
  · refine iff_of_true (withoutDollar_append ?_ _ _) fun h => absurd h hempty
    exact fun hnil => hempty (String.toList_eq_nil_iff.mp hnil)

/-- Slots whose values hold a name in braces, a call, a dollar sign and a brace. -/
def nestingSlots : List Slot :=
  [⟨"x", "\x7by\x7d-@var(x)", "/\x7d"⟩, ⟨"y", "$\x7b", ""⟩]

/-- A store with the values of these slots. -/
def nestingStore : Store := .ofList [("x", "\x7by\x7d-@var(x)"), ("y", "$\x7b")]

/-- These values are taken in as they are. -/
theorem substituteWord_filled_iff_nesting :
    IsLiteral "$at:" ∧ (∀ slot ∈ nestingSlots, slot.IsDeclared [nestingStore]) ∧
      nestingSlots ≠ [] ∧ wordOf "$at:" nestingSlots = "$at:\x7bx\x7d/\x7d\x7by\x7d" ∧
      substituteWord [nestingStore] (wordOf "$at:" nestingSlots) =
        "at:\x7by\x7d-@var(x)/\x7d$\x7b" := by
  have hslots : ∀ slot ∈ nestingSlots, slot.IsDeclared [nestingStore] := by
    rw [nestingSlots, List.forall_mem_cons, List.forall_mem_singleton]
    exact ⟨⟨by decide, by decide +kernel, by decide⟩,
      ⟨by decide, by decide +kernel, by decide⟩⟩
  exact ⟨by decide, hslots, List.cons_ne_nil _ _, by decide,
    (substituteWord_filled_iff (by decide) hslots (List.cons_ne_nil _ _)).mpr (by decide)⟩

/-- **A dollar sign in front of a value is dropped** where the value begins the word, as if it had
been written there. -/
theorem dollar_of_value_dropped :
    let slot : Slot := ⟨"x", "$5", ""⟩
    let layers := [Store.ofList [("x", "$5")]]
    IsLiteral "" ∧ slot.IsDeclared layers ∧ wordOf "" [slot] = "\x7bx\x7d" ∧
      String.ofList (withoutDollar 1 "".toList ++ filled [slot]) = "$5" ∧
      substituteWord layers (wordOf "" [slot]) = "5" := by
  intro slot layers
  have hslot : slot.IsDeclared layers := ⟨by decide, by decide +kernel, by decide⟩
  refine ⟨by decide, hslot, by decide, by decide, ?_⟩
  rw [substituteWord_wordOf (by decide) (List.forall_mem_singleton.mpr hslot)]
  decide

end ScriptedShell.Variable
