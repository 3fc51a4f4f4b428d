/-
# References in a text

A reference is an opening, a name of one or more characters of its own kind, and a closing
character; reading one gives its name and what follows (`Reference.read?_eq_some_iff`).  References
are resolved from left to right: one whose name is known is replaced by its value
(`Reference.resolve_reference`), and a text none of whose references has a known name is left as it
is (`Reference.resolve_unresolved`).
-/
import Mathlib
import ScriptedShell.Variable.Substitution

namespace ScriptedShell.Variable

open Text Command

/-! ## Reading -/

/-- Whether a text can be the name in a reference of a kind. -/
def Reference.IsName (r : Reference) (name : List Char) : Prop :=
  name ≠ [] ∧ ∀ c ∈ name, r.nameChar c = true

instance (r : Reference) (name : List Char) : Decidable (r.IsName name) :=
  decidable_of_iff (name ≠ [] ∧ name.all r.nameChar = true)
    (by rw [Reference.IsName, List.all_eq_true])

/-- The text of a reference with a name, before another text. -/
def Reference.write (r : Reference) (name rest : List Char) : List Char :=
  r.opening ++ (name ++ r.closing :: rest)

/-- Whether a text holds a reference of a kind with a name. -/
def Reference.Holds (r : Reference) (cs name : List Char) : Prop :=
  r.IsName name ∧ ∃ before after, cs = before ++ r.write name after

section Reading

variable {r : Reference} {cs name rest : List Char}

/-- A text without some character of the opening of a reference holds none. -/
theorem Reference.not_holds {c : Char} (hc : c ∈ r.opening) (hcs : c ∉ cs) : ¬r.Holds cs name := by
  rintro ⟨-, before, after, rfl⟩
  exact hcs (List.mem_append_right before (List.mem_append_left _ hc))

/-- A reference in which the last character of its opening and its closing character stand once each
holds no other reference. -/
theorem Reference.Holds.eq_name {name' opening : List Char} {c : Char}
    (h : r.Holds (r.write name []) name') (hopening : r.opening = opening ++ [c])
    (hfirst : c ∉ opening) (hrest : c ∉ name ++ [r.closing]) (hname : r.closing ∉ name) :
    name' = name := by
  obtain ⟨-, before, after, heq⟩ := h
  rw [Reference.write, Reference.write, hopening] at heq
  have hsplit : opening ++ c :: (name ++ [r.closing]) =
      (before ++ opening) ++ c :: (name' ++ r.closing :: after) := by simpa using heq
  obtain ⟨-, -, hnames⟩ := (List.append_cons_inj_of_notMem hfirst hrest).mp hsplit
  exact ((List.append_cons_inj_of_notMem hname List.not_mem_nil).mp hnames).1.symm

/-- A name is read up to the closing character. -/
theorem Reference.readName?_eq_some_iff (hclosing : r.nameChar r.closing = false) :
    r.readName? cs = some (name, rest) ↔ r.IsName name ∧ cs = name ++ r.closing :: rest := by
  constructor
  · intro h
    rw [Reference.readName?] at h
    split at h
    · next c front close back htake hdrop =>
      split_ifs at h with hclose
      obtain ⟨rfl, rfl⟩ : c :: front = name ∧ back = rest := by simpa using h
      refine ⟨⟨List.cons_ne_nil c front, fun d hd => ?_⟩, ?_⟩
      · rw [← htake] at hd
        exact List.mem_takeWhile_imp hd
      · rw [← hclose, ← htake, ← hdrop, List.takeWhile_append_dropWhile]
    · cases h
  · rintro ⟨⟨hne, hname⟩, rfl⟩
    obtain ⟨c, front, rfl⟩ := List.exists_cons_of_ne_nil hne
    have hstop : ¬r.nameChar r.closing = true := by rw [hclosing]; exact Bool.false_ne_true
    rw [Reference.readName?, List.takeWhile_append_of_pos hname,
      List.dropWhile_append_of_pos hname, List.takeWhile_cons_of_neg hstop,
      List.dropWhile_cons_of_neg hstop, List.append_nil]
    exact if_pos rfl

/-- **What reading a reference finds**: the text is the reference with what follows. -/
theorem Reference.read?_eq_some_iff (hclosing : r.nameChar r.closing = false) :
    r.read? cs = some (name, rest) ↔ r.IsName name ∧ cs = r.write name rest := by
  rw [Reference.read?, Reference.write]
  split_ifs with hopens
  · obtain ⟨tail, rfl⟩ := List.isPrefixOf_iff_prefix.mp hopens
    rw [List.drop_left, Reference.readName?_eq_some_iff hclosing, List.append_cancel_left_eq]
  · refine iff_of_false (by simp) ?_
    rintro ⟨-, rfl⟩
    exact hopens (List.isPrefixOf_iff_prefix.mpr (List.prefix_append _ _))

/-- No call goes on after its closing character. -/
theorem closing_callReference : callReference.nameChar callReference.closing = false := by decide

/-- No name in braces goes on after its closing character. -/
theorem closing_braceReference : braceReference.nameChar braceReference.closing = false := by
  decide

end Reading

/-! ## Resolving -/

section Resolving

variable {r : Reference} {value? : String → Option String} {c : Char} {cs name rest : List Char}

/-- A character that begins no reference is kept. -/
theorem Reference.resolve_cons (hnone : r.read? (c :: cs) = none) :
    r.resolve value? (c :: cs) =
      (c :: (r.resolve value? cs).1, (r.resolve value? cs).2) := by
  rw [Reference.resolve]
  split
  · next hfound =>
    rw [hnone] at hfound
    cases hfound
  · rfl

/-- **A reference at the front of a text** is replaced by the value of its name, or kept when the
name has none. -/
theorem Reference.resolve_reference (hclosing : r.nameChar r.closing = false)
    (hopening : r.opening ≠ []) (hname : r.IsName name) (rest : List Char) :
    r.resolve value? (r.write name rest) =
      match value? (String.ofList name) with
      | some value => (value.toList ++ (r.resolve value? rest).1, (r.resolve value? rest).2 + 1)
      | none => (r.write name (r.resolve value? rest).1, (r.resolve value? rest).2) := by
  have hread : r.read? (r.write name rest) = some (name, rest) :=
    (Reference.read?_eq_some_iff hclosing).mpr ⟨hname, rfl⟩
  obtain ⟨c, cs, hcs⟩ := List.exists_cons_of_ne_nil (l := r.write name rest) (by
    rw [Reference.write]
    simp [hopening])
  rw [hcs] at hread ⊢
  rw [Reference.resolve]
  split
  · next name' rest' hfound =>
    obtain ⟨rfl, rfl⟩ : name = name' ∧ rest = rest' := by
      rw [hread] at hfound
      simpa using hfound
    rcases r.resolve value? rest with ⟨done, count⟩
    cases value? (String.ofList name) with
    | some value => rfl
    | none => simp only [Reference.write, List.append_assoc]
  · next hnone =>
    rw [hread] at hnone
    cases hnone

/-- **A text whose references are all unknown** is left as it is.  By induction along its
characters, those of a reference taken together. -/
theorem Reference.resolve_unresolved (hclosing : r.nameChar r.closing = false)
    (hopening : r.opening ≠ []) (cs : List Char)
    (h : ∀ name, r.Holds cs name → value? (String.ofList name) = none) :
    r.resolve value? cs = (cs, 0) := by
  induction hn : cs.length using Nat.strong_induction_on generalizing cs with
  | _ n ih =>
    subst hn
    cases cs with
    | nil => rw [Reference.resolve]
    | cons c cs =>
      cases hread : r.read? (c :: cs) with
      | none =>
        have hrest := ih cs.length (Nat.lt_succ_self _) cs (fun name hname => ?_) rfl
        · rw [Reference.resolve_cons hread, hrest]
        · obtain ⟨hname, before, after, hcs⟩ := hname
          exact h name ⟨hname, c :: before, after, by rw [hcs, List.cons_append]⟩
      | some found =>
        obtain ⟨name, rest⟩ := found
        have hshorter := Reference.length_of_read? hread
        obtain ⟨hname, hcs⟩ := (Reference.read?_eq_some_iff hclosing).mp hread
        have hunknown : value? (String.ofList name) = none := h name ⟨hname, [], rest, hcs⟩
        have hrest := ih rest.length hshorter rest (fun name' hname' => ?_) rfl
        · rw [hcs, Reference.resolve_reference hclosing hopening hname, hunknown, hrest]
        · obtain ⟨hname', before, after, hafter⟩ := hname'
          refine h name' ⟨hname', r.opening ++ (name ++ r.closing :: before), after, ?_⟩
          rw [hcs, Reference.write, hafter]
          simp only [List.append_assoc, List.cons_append]

/-- A text without some character of the opening of a reference is left as it is. -/
theorem Reference.resolve_eq_self (hclosing : r.nameChar r.closing = false) (hc : c ∈ r.opening)
    (hcs : c ∉ cs) : r.resolve value? cs = (cs, 0) :=
  Reference.resolve_unresolved hclosing (List.ne_nil_of_mem hc) cs fun _ hname =>
    absurd hname (Reference.not_holds hc hcs)

end Resolving

/-! ## Words -/

/-- A dollar sign in front is dropped where names in braces were resolved. -/
def withoutDollar (count : Nat) (resolved : List Char) : List Char :=
  match resolved with
  | '$' :: rest => if count > 0 then rest else resolved
  | _ => resolved

/-- Where nothing was resolved nothing is dropped. -/
theorem withoutDollar_zero (resolved : List Char) : withoutDollar 0 resolved = resolved := by
  rw [withoutDollar.eq_def]
  split
  · exact if_neg (Nat.lt_irrefl 0)
  · rfl

/-- A text without a dollar sign in front stays. -/
theorem withoutDollar_of_ne {resolved : List Char} (h : ∀ rest, resolved ≠ '$' :: rest)
    (count : Nat) : withoutDollar count resolved = resolved := by
  rw [withoutDollar.eq_def]
  split
  · exact absurd rfl (h _)
  · rfl

/-- **What a word is resolved to**: its calls are resolved, and then the names in braces of what
comes of it. -/
theorem substituteWord_of_resolved {layers : List Store} {word : String}
    {called resolved : List Char} {calls count : Nat}
    (hcalls : callReference.resolve (fun name => lookup name layers) word.toList = (called, calls))
    (hbraces : braceReference.resolve (fun name => lookup name layers) called =
      (resolved, count)) :
    substituteWord layers word = String.ofList (withoutDollar count resolved) := by
  rw [substituteWord, hcalls]
  dsimp only
  rw [hbraces]
  rfl

/-- Whether a word refers to a name, in a call or in braces. -/
def RefersTo (word name : String) : Prop :=
  callReference.Holds word.toList name.toList ∨ braceReference.Holds word.toList name.toList

/-- **A word all of whose references are unknown** is left as it is. -/
theorem substituteWord_unresolved {layers : List Store} {word : String}
    (h : ∀ name, RefersTo word name → lookup name layers = none) :
    substituteWord layers word = word := by
  have hcalls : callReference.resolve (fun name => lookup name layers) word.toList =
      (word.toList, 0) :=
    Reference.resolve_unresolved closing_callReference (by decide) _ fun name hname =>
      h (String.ofList name) (.inl (by rwa [String.toList_ofList]))
  have hbraces : braceReference.resolve (fun name => lookup name layers) word.toList =
      (word.toList, 0) :=
    Reference.resolve_unresolved closing_braceReference (by decide) _ fun name hname =>
      h (String.ofList name) (.inr (by rwa [String.toList_ofList]))
  rw [substituteWord_of_resolved hcalls hbraces, withoutDollar_zero, String.ofList_toList]

/-- A word without a parenthesis or brace that opens is left as it is. -/
theorem substituteWord_eq_self {word : String} (hbrace : '\x7b' ∉ word.toList)
    (hcall : '(' ∉ word.toList) (layers : List Store) : substituteWord layers word = word := by
  have hcalls : callReference.resolve (fun name => lookup name layers) word.toList =
      (word.toList, 0) := Reference.resolve_eq_self closing_callReference (by decide) hcall
  have hbraces : braceReference.resolve (fun name => lookup name layers) word.toList =
      (word.toList, 0) := Reference.resolve_eq_self closing_braceReference (by decide) hbrace
  rw [substituteWord_of_resolved hcalls hbraces, withoutDollar_zero, String.ofList_toList]

end ScriptedShell.Variable
