/-
# Resolving references again

Values can have several words, so that a line has other words once its references are resolved, and
is grouped anew.  Still nothing more is resolved where each word of the line is plain or a single
reference, and each value is made of bare words (`substituteText_substituteText`).  Only keys need
an argument: a key that is kept for its place is kept again, since no fewer words stand before it
and the word after it still has no dash.
-/
import Mathlib
import ScriptedShell.Proofs.Command.Masking
import ScriptedShell.Proofs.Variable.Tokenwise

namespace ScriptedShell.Variable

open Text Command

/-! ## Words -/

/-- Whether a word refers to nothing, wherever it stands, and takes no part in a reference. -/
structure IsBare (word : String) : Prop where
  noBrace : '\x7b' ∉ word.toList
  noCall : '(' ∉ word.toList
  noDash : startsWith word "-" = false
  noDollar : startsWith word "$" = false

/-- Whether a text can be a name: letters, digits, underscores and dots can, and all other characters
but blanks, parentheses and braces. -/
def IsName (name : String) : Prop :=
  name ≠ "" ∧ ∀ c ∈ name.toList, isBlank c = false ∧ c ∉ ['(', ')', '\x7b', '\x7d']

/-- The words that are a single reference to a name. -/
inductive IsReference : String → Prop
  | braces {name : String} (h : IsName name) : IsReference ("\x7b" ++ name ++ "\x7d")
  | dollar {name : String} (h : IsName name) : IsReference ("$\x7b" ++ name ++ "\x7d")
  | call {name : String} (h : IsName name) : IsReference ("-@var(" ++ name ++ ")")
  | key {name : String} (h : IsName name) : IsReference ("-@" ++ name)

section Words

variable {layers : List Store} {name word text : String}

/-- No parenthesis or brace is in a name. -/
theorem IsName.not_mem (h : IsName name) {c : Char} (hc : c ∈ ['(', ')', '\x7b', '\x7d']) :
    c ∉ name.toList := fun hmem => (h.2 c hmem).2 hc

/-- A value that is found is that of an entry of a layer. -/
theorem exists_entry_of_lookup {value : String} (h : lookup name layers = some value) :
    ∃ layer ∈ layers, ∃ entry ∈ layer.entries, entry.2 = value := by
  obtain ⟨layer, hlayer, hvalue⟩ := List.exists_of_findSome?_eq_some h
  rw [Store.get?, List.lookup_eq_some_iff] at hvalue
  obtain ⟨front, back, hentries, -⟩ := hvalue
  exact ⟨layer, hlayer, (marked name, value), by rw [hentries]; simp, rfl⟩

/-- A phrase of bare words is left as it is. -/
theorem substituteWord_phrase (h : IsPhrase IsBare text) : substituteWord layers text = text :=
  substituteWord_eq_self (h.not_mem (by decide) fun _ hword => hword.noBrace)
    (h.not_mem (by decide) fun _ hword => hword.noCall) layers

/-- A phrase of bare words has no dollar sign in front. -/
theorem ne_dollar_of_phrase (h : IsPhrase IsBare text) (rest : List Char) :
    text.toList ≠ '$' :: rest := by
  intro htext
  have hnone : startsWith text "$" = false :=
    h.startsWith_eq_false rfl fun _ hword => hword.noDollar
  rw [startsWith, htext] at hnone
  exact absurd hnone (by simp)

/-- What a word without calls is resolved to. -/
theorem substituteWord_of_noCall (hcall : '(' ∉ word.toList) {resolved : List Char} {count : Nat}
    (h : braceReference.resolve (fun n => lookup n layers) word.toList = (resolved, count)) :
    substituteWord layers word = String.ofList (withoutDollar count resolved) :=
  substituteWord_of_resolved
    (Reference.resolve_eq_self closing_callReference (by decide) hcall) h

/-- What a word is resolved to when no brace is left of its calls. -/
theorem substituteWord_of_noBrace {called : List Char} {count : Nat}
    (h : callReference.resolve (fun n => lookup n layers) word.toList = (called, count))
    (hbrace : '\x7b' ∉ called) : substituteWord layers word = String.ofList called := by
  have hbraces : braceReference.resolve (fun n => lookup n layers) called = (called, 0) :=
    Reference.resolve_eq_self closing_braceReference (by decide) hbrace
  rw [substituteWord_of_resolved h hbraces, withoutDollar_zero]

/-- A single reference is left as it is, or becomes the value of its name. -/
theorem resolve_single (r : Reference) (value? : String → Option String) {opening : List Char}
    {c : Char} (hclosing : r.nameChar r.closing = false) (hopening : r.opening = opening ++ [c])
    (hfirst : c ∉ opening) (hrest : c ∉ name.toList ++ [r.closing])
    (hname : r.closing ∉ name.toList) :
    r.resolve value? (r.write name.toList []) = (r.write name.toList [], 0) ∨
      ∃ value, value? name = some value ∧
        r.resolve value? (r.write name.toList []) = (value.toList, 1) := by
  have hne : r.opening ≠ [] := by simp [hopening]
  by_cases hknown : r.IsName name.toList ∧ ∃ value, value? name = some value
  · obtain ⟨hchars, value, hvalue⟩ := hknown
    refine .inr ⟨value, hvalue, ?_⟩
    rw [Reference.resolve_reference hclosing hne hchars, String.ofList_toList, hvalue]
    simp [Reference.resolve]
  · refine .inl (Reference.resolve_unresolved hclosing hne _ fun name' hholds => ?_)
    obtain rfl : name' = name.toList := hholds.eq_name hopening hfirst hrest hname
    rw [String.ofList_toList]
    exact Option.eq_none_iff_forall_ne_some.mpr fun value hvalue =>
      hknown ⟨hholds.1, value, hvalue⟩

/-- A name in braces alone is left as it is, or becomes the value of the name. -/
theorem resolve_braces (layers : List Store) (h : IsName name) :
    braceReference.resolve (fun n => lookup n layers) (braceReference.write name.toList []) =
        (braceReference.write name.toList [], 0) ∨
      ∃ value, lookup name layers = some value ∧
        braceReference.resolve (fun n => lookup n layers) (braceReference.write name.toList []) =
          (value.toList, 1) :=
  resolve_single braceReference _ closing_braceReference rfl List.not_mem_nil
    (by simpa [braceReference] using h.not_mem (by decide)) (h.not_mem (by decide))

variable (hvalues : ∀ name value, lookup name layers = some value → IsPhrase IsBare value)

include hvalues

/-- A word that is a name in braces is left as it is, or becomes the value of the name. -/
theorem substituteWord_braces (h : IsName name)
    (hword : word.toList = braceReference.write name.toList []) :
    substituteWord layers word = word ∨ IsPhrase IsBare (substituteWord layers word) := by
  have hcall : '(' ∉ word.toList := by
    rw [hword]
    simpa [Reference.write, braceReference] using h.not_mem (by decide)
  rcases resolve_braces layers h with hsame | ⟨value, hvalue, hresolved⟩
  · rw [← hword] at hsame
    rw [substituteWord_of_noCall hcall hsame, withoutDollar_zero, String.ofList_toList]
    exact .inl rfl
  · have hphrase := hvalues _ _ hvalue
    rw [← hword] at hresolved
    rw [substituteWord_of_noCall hcall hresolved, withoutDollar_of_ne (ne_dollar_of_phrase hphrase),
      String.ofList_toList]
    exact .inr hphrase

/-- So does such a word with a dollar sign in front. -/
theorem substituteWord_dollar (h : IsName name)
    (hword : word.toList = '$' :: braceReference.write name.toList []) :
    substituteWord layers word = word ∨ IsPhrase IsBare (substituteWord layers word) := by
  have hcall : '(' ∉ word.toList := by
    rw [hword]
    simpa [Reference.write, braceReference] using h.not_mem (by decide)
  have hfront : braceReference.resolve (fun n => lookup n layers)
      ('$' :: braceReference.write name.toList []) = _ := Reference.resolve_cons rfl
  rw [← hword] at hfront
  rcases resolve_braces layers h with hsame | ⟨value, hvalue, hresolved⟩
  · rw [hsame, ← hword] at hfront
    rw [substituteWord_of_noCall hcall hfront, withoutDollar_zero, String.ofList_toList]
    exact .inl rfl
  · rw [hresolved] at hfront
    rw [substituteWord_of_noCall hcall hfront, withoutDollar, if_pos Nat.one_pos,
      String.ofList_toList]
    exact .inr (hvalues _ _ hvalue)

/-- A word that is a call is left as it is, or becomes the value of the name. -/
theorem substituteWord_call (h : IsName name)
    (hword : word.toList = callReference.write name.toList []) :
    substituteWord layers word = word ∨ IsPhrase IsBare (substituteWord layers word) := by
  have hopening : callReference.opening = "-@var".toList ++ ['('] := rfl
  have hresolve := resolve_single callReference (fun n => lookup n layers) closing_callReference
    hopening (by decide) (by simpa [callReference] using h.not_mem (by decide))
    (h.not_mem (by decide))
  rw [← hword] at hresolve
  rcases hresolve with hsame | ⟨value, hvalue, hresolved⟩
  · have hbrace : '\x7b' ∉ word.toList := by
      rw [hword]
      simpa [Reference.write, callReference] using h.not_mem (by decide)
    rw [substituteWord_of_noBrace hsame hbrace, String.ofList_toList]
    exact .inl rfl
  · have hphrase := hvalues _ _ hvalue
    rw [substituteWord_of_noBrace hresolved
      (hphrase.not_mem (by decide) fun _ hword => hword.noBrace), String.ofList_toList]
    exact .inr hphrase

/-- **A word that is a single reference** is left as it is, or becomes a phrase of bare words. -/
theorem substituteWord_reference (h : IsReference word) :
    substituteWord layers word = word ∨ IsPhrase IsBare (substituteWord layers word) := by
  cases h with
  | braces h => exact substituteWord_braces hvalues h (by simp [Reference.write, braceReference])
  | dollar h => exact substituteWord_dollar hvalues h (by simp [Reference.write, braceReference])
  | call h => exact substituteWord_call hvalues h (by simp [Reference.write, callReference])
  | key h =>
    left
    refine substituteWord_eq_self ?_ ?_ layers
    · simpa using h.not_mem (by decide)
    · simpa using h.not_mem (by decide)

end Words

/-! ## Lines -/

/-- The text of a line with its references resolved. -/
def substituteText (policies : PolicyTable) (layers : List Store) (text : String) : String :=
  substituteLine (.parse policies text) layers

section Lines

variable {policies : PolicyTable} {layers : List Store} {text word : String} {part : Command.Part}
  {i position : Nat}

/-- The words of a resolved line are those of what its words are resolved to. -/
theorem wordsOf_substituteText (policies : PolicyTable) (layers : List Store) (text : String) :
    wordsOf (substituteText policies layers text) =
      (substitutedWords (.parse policies text) layers).flatMap wordsOf := by
  obtain ⟨gaps, hspacing, -, hresolved⟩ := exists_spacing_parse policies text layers
  rw [wordsOf, substituteText, hresolved, words_spread hspacing, List.flatMap_map, List.map_flatMap]
  · rfl
  · rw [List.length_map, List.length_map, length_substitutedWords]

/-- Each resolved word is what a word of the line is resolved to. -/
theorem exists_occurs_of_getElem? {out : String}
    (h : (substitutedWords (.parse policies text) layers)[i]? = some out) :
    ∃ part position word, Occurs (.parse policies text) i part position word ∧
      out = substituteWord layers (referent (.parse policies text) layers part position word) := by
  have hi := (List.getElem?_eq_some_iff.mp h).1
  rw [length_substitutedWords] at hi
  obtain ⟨part, position, word, hoccurs⟩ := exists_occurs hi
  rw [getElem?_substitutedWords hoccurs] at h
  exact ⟨part, position, word, hoccurs, (Option.some.inj h).symm⟩

/-- What a word stands for is the word itself, or the value of the variable whose key it is. -/
theorem referent_cases (line : Line) (layers : List Store) (part : Command.Part) (position : Nat)
    (word : String) :
    referent line layers part position word = word ∨
      lookup word layers = some (referent line layers part position word) := by
  rw [referent]
  split_ifs
  · cases lookup word layers with
    | none => exact .inl rfl
    | some value => exact .inr rfl
  · exact .inl rfl

/-- A line begins with the same word when its references are resolved, if this word refers to
nothing. -/
theorem wordsOf_substituteText_cons (policies : PolicyTable) (layers : List Store) {first : String}
    {tokens : List String} (htext : wordsOf text = first :: tokens) (hfirst : RefersToNothing first) :
    ∃ more, wordsOf (substituteText policies layers text) = first :: more := by
  have hword : wordsOf first = [first] :=
    wordsOf_eq_singleton (isWord_of_mem_wordsOf (htext ▸ List.mem_cons_self))
  have hlength : 0 < ((Line.parse policies text).parts.flatMap Part.words).length := by
    rw [words_parse, htext]
    exact Nat.succ_pos _
  obtain ⟨part, position, word, hoccurs⟩ := exists_occurs hlength
  obtain rfl : first = word := by
    have hget := hoccurs.getElem?
    rw [words_parse, htext] at hget
    exact Option.some.inj hget
  have hout : (substitutedWords (.parse policies text) layers)[0]? = some first := by
    rw [getElem?_substitutedWords hoccurs, referent_eq_self hfirst.2.2,
      substituteWord_eq_self hfirst.1 hfirst.2.1]
  rw [wordsOf_substituteText]
  cases houts : substitutedWords (.parse policies text) layers with
  | nil => rw [houts] at hout; cases hout
  | cons out outs =>
    rw [houts] at hout
    obtain rfl : out = first := Option.some.inj hout
    refine ⟨outs.flatMap wordsOf, ?_⟩
    rw [List.flatMap_cons, hword, List.singleton_append]

variable (hvalues : ∀ name value, lookup name layers = some value → IsPhrase IsBare value)
  (hwords : ∀ word ∈ wordsOf text, RefersToNothing word ∨ IsReference word)

include hvalues hwords

/-- **What a word of a line is resolved to** is the word itself, which then stands for itself, or a
phrase of bare words. -/
theorem resolved_cases (h : Occurs (.parse policies text) i part position word) :
    (substituteWord layers (referent (.parse policies text) layers part position word) = word ∧
        referent (.parse policies text) layers part position word = word) ∨
      IsPhrase IsBare
        (substituteWord layers (referent (.parse policies text) layers part position word)) := by
  rcases referent_cases (.parse policies text) layers part position word with hsame | hvalue
  · rw [hsame]
    rcases hwords word (mem_wordsOf_of_occurs h) with hplain | hreference
    · exact .inl ⟨substituteWord_eq_self hplain.1 hplain.2.1 layers, rfl⟩
    · exact (substituteWord_reference hvalues hreference).imp_left fun hkept => ⟨hkept, rfl⟩
  · have hphrase := hvalues _ _ hvalue
    rw [substituteWord_phrase hphrase]
    exact .inr hphrase

/-- What a word is resolved to has words, of which the first has no dash when the word has none. -/
theorem exists_first_word (h : Occurs (.parse policies text) i part position word) :
    ∃ first more,
      wordsOf (substituteWord layers (referent (.parse policies text) layers part position word)) =
        first :: more ∧
      (startsWith word "-" = false → startsWith first "-" = false) := by
  rcases resolved_cases hvalues hwords h with ⟨hsame, -⟩ | hphrase
  · refine ⟨word, [], ?_, id⟩
    rw [hsame, wordsOf_eq_singleton (isWord_of_mem_wordsOf (mem_wordsOf_of_occurs h))]
  · obtain ⟨first, more, hfirst, hbare, -⟩ := hphrase.exists_first
    exact ⟨first, more, hfirst, fun _ => hbare.noDash⟩

/-- A resolved line is trimmed. -/
theorem trimmed_substituteText :
    trimmed (substituteText policies layers text) = substituteText policies layers text := by
  obtain ⟨gaps, hspacing, hraw, hresolved⟩ := exists_spacing_parse policies text layers
  rw [← String.toList_inj, trimmed, String.toList_ofList, substituteText, hresolved]
  refine trim_spread hspacing (by rw [List.length_map, List.length_map, length_substitutedWords])
    (fun cs hcs => ?_) ?_
  · obtain ⟨out, hout, rfl⟩ := List.mem_map.mp hcs
    obtain ⟨i, hi⟩ := List.getElem?_of_mem hout
    obtain ⟨part, position, word, hoccurs, rfl⟩ := exists_occurs_of_getElem? hi
    rcases resolved_cases hvalues hwords hoccurs with ⟨hsame, -⟩ | hphrase
    · have hword := isWord_of_mem_wordsOf (mem_wordsOf_of_occurs hoccurs)
      rw [hsame]
      exact ⟨hword.1, hword.trim_eq⟩
    · obtain ⟨first, -, -, -, hword, hprefix⟩ := hphrase.exists_first
      exact ⟨fun hnil => hword.1 (List.prefix_nil.mp (hnil ▸ hprefix)), hphrase.trim_eq⟩
  · rw [← hraw, Line.parse, trimmed, String.toList_ofList, trim_trim]

/-- No fewer words come of words that are resolved. -/
theorem length_le_flatMap_wordsOf {front back : List String}
    (houts : substitutedWords (.parse policies text) layers = front ++ back) :
    front.length ≤ (front.flatMap wordsOf).length := by
  have hle := List.length_le_sum_of_one_le (front.map fun out => (wordsOf out).length) fun n hn => by
    obtain ⟨out, hout, rfl⟩ := List.mem_map.mp hn
    obtain ⟨i, hi⟩ := List.getElem?_of_mem (houts ▸ List.mem_append_left back hout)
    obtain ⟨part, position, word, hoccurs, rfl⟩ := exists_occurs_of_getElem? hi
    obtain ⟨first, more, hfirst, -⟩ := exists_first_word hvalues hwords hoccurs
    rw [hfirst]
    exact Nat.succ_pos _
  rw [List.length_flatMap]
  rwa [List.length_map] at hle

/-- **A key stays a key.**  A word with a dash that is the key of a keyed part, and stays in the
resolved line, is the key of a keyed part there. -/
theorem keyed_again {front back : List String} {part' : Command.Part} {position' : Nat}
    (houts : substitutedWords (.parse policies text) layers = front ++ word :: back)
    (hpolicy : policyFor policies (wordsOf (substituteText policies layers text)) =
      policyFor policies (wordsOf text))
    (hdash : startsWith word "-" = true)
    (h : Occurs (.parse policies text) front.length part position word)
    (h' : Occurs (.parse policies (substituteText policies layers text))
      (front.flatMap wordsOf).length part' position' word)
    (hkeyed : part.key?.isSome ∧ position = 0) : part'.key?.isSome ∧ position' = 0 := by
  have hword : wordsOf word = [word] :=
    wordsOf_eq_singleton (isWord_of_mem_wordsOf (mem_wordsOf_of_occurs h))
  obtain ⟨hskip, haccepts, next, hnext, hnoDash⟩ := (h.keyed_iff hdash).mp hkeyed
  -- the word after the key is resolved to words of which the first has no dash
  have hnext' : front.length + 1 < ((Line.parse policies text).parts.flatMap Part.words).length := by
    rw [words_parse]
    exact (List.getElem?_eq_some_iff.mp hnext).1
  obtain ⟨nextPart, nextPosition, other, hoccurs⟩ := exists_occurs hnext'
  obtain rfl : other = next := by
    have hget := hoccurs.getElem?
    rw [words_parse, hnext] at hget
    exact (Option.some.inj hget).symm
  obtain ⟨first, more, hfirst, hfirst'⟩ := exists_first_word hvalues hwords hoccurs
  obtain ⟨back, rfl⟩ : ∃ rest, back = substituteWord layers
      (referent (.parse policies text) layers nextPart nextPosition other) :: rest := by
    have hget : (substitutedWords (.parse policies text) layers)[front.length + 1]? = _ :=
      getElem?_substitutedWords hoccurs
    rw [houts, List.getElem?_append_right (Nat.le_add_right _ 1), Nat.add_sub_cancel_left,
      List.getElem?_cons_succ] at hget
    cases back with
    | nil => cases hget
    | cons out back => exact ⟨back, by rw [Option.some.inj hget]⟩
  refine (h'.keyed_iff hdash).mpr ⟨?_, ?_, first, ?_, hfirst' hnoDash⟩
  · have hle := length_le_flatMap_wordsOf hvalues hwords houts
    rw [hpolicy]
    exact hskip.trans_le hle
  · rw [hpolicy]
    exact haccepts
  · rw [wordsOf_substituteText, houts, List.flatMap_append, List.flatMap_cons, List.flatMap_cons,
      hword, hfirst, List.getElem?_append_right (Nat.le_add_right _ 1), Nat.add_sub_cancel_left]
    rfl

/-- **A kept word is kept again.**  A word that stays in the resolved line and stands for itself on
the line stands for itself on the resolved line. -/
theorem referent_again {first : String} {tokens front back : List String} {part' : Command.Part}
    {position' : Nat} (htext : wordsOf text = first :: tokens) (hfirst : RefersToNothing first)
    (houts : substitutedWords (.parse policies text) layers = front ++ word :: back)
    (h : Occurs (.parse policies text) front.length part position word)
    (h' : Occurs (.parse policies (substituteText policies layers text))
      (front.flatMap wordsOf).length part' position' word)
    (hself : referent (.parse policies text) layers part position word = word) :
    referent (.parse policies (substituteText policies layers text)) layers part' position' word =
      word := by
  obtain ⟨more, htext'⟩ := wordsOf_substituteText_cons policies layers htext hfirst
  by_cases hmarked : startsWith word variableMarker = true
  · have hdash : startsWith word "-" = true := startsWith_of_append "@" hmarked
    cases hvalue : lookup word layers with
    | none => rw [referent, hvalue, Option.getD_none, ite_self]
    | some value =>
      rw [referent, if_neg]
      rintro ⟨-, -, hunkeyed, hkeyword⟩
      -- otherwise the word would stand for a value without a dash on the line itself
      have hplaced : referent (.parse policies text) layers part position word =
          (lookup word layers).getD word := by
        refine if_pos ⟨hmarked, fun hindex => ?_, fun hkeyed => hunkeyed ?_, ?_⟩
        · have hget := h.getElem?
          rw [words_parse, htext, h.eq_zero hdash hindex] at hget
          obtain rfl : first = word := Option.some.inj hget
          rw [hfirst.2.2] at hmarked
          cases hmarked
        · refine keyed_again hvalues hwords houts ?_ hdash h h' hkeyed
          rw [policyFor, policyFor, htext, htext', List.headD_cons, List.headD_cons]
        · rwa [keyword_parse htext, ← keyword_parse htext']
      have hsame : value = word := by
        rw [← hself, hplaced, hvalue, Option.getD_some]
      have hnone : startsWith value "-" = false :=
        (hvalues _ _ hvalue).startsWith_eq_false rfl fun _ hword => hword.noDash
      rw [hsame, hdash] at hnone
      cases hnone
  · exact referent_eq_self (Bool.eq_false_iff.mpr hmarked) _ layers part' position'

/-- **Nothing more is resolved.**  Each word of a resolved line is resolved to itself. -/
theorem resolved_again {first : String} {tokens : List String}
    (htext : wordsOf text = first :: tokens) (hfirst : RefersToNothing first)
    (h : Occurs (.parse policies (substituteText policies layers text)) i part position word) :
    substituteWord layers
      (referent (.parse policies (substituteText policies layers text)) layers part position word) =
        word := by
  have hget := h.getElem?
  rw [words_parse, wordsOf_substituteText] at hget
  obtain ⟨front, out, back, j, houts, hj, hi⟩ := exists_of_getElem?_flatMap hget
  have hout : (substitutedWords (.parse policies text) layers)[front.length]? = some out := by
    rw [houts, List.getElem?_append_right le_rfl, Nat.sub_self, List.getElem?_cons_zero]
  obtain ⟨part₀, position₀, token, hoccurs, rfl⟩ := exists_occurs_of_getElem? hout
  rcases resolved_cases hvalues hwords hoccurs with ⟨hsame, hreferent⟩ | hphrase
  · -- the word was kept, and is kept again
    rw [hsame, wordsOf_eq_singleton (isWord_of_mem_wordsOf (mem_wordsOf_of_occurs hoccurs))] at hj
    obtain ⟨rfl, rfl⟩ : j = 0 ∧ token = word := by
      cases j with
      | zero => exact ⟨rfl, Option.some.inj hj⟩
      | succ j => cases hj
    rw [hreferent] at hsame
    suffices hagain : referent (.parse policies (substituteText policies layers text)) layers part
        position token = token by
      rw [hagain, hsame]
    rw [hreferent, hsame] at houts
    rw [hi] at h
    exact referent_again hvalues hwords htext hfirst houts hoccurs h hreferent
  · -- the word is bare
    have hbare := hphrase.of_mem_wordsOf (List.mem_of_getElem? hj)
    rw [referent_eq_self (not_marked_of_not_dash "@" hbare.noDash),
      substituteWord_eq_self hbare.noBrace hbare.noCall]

end Lines

/-- **Resolving references twice is resolving them once.**  The first word of the line refers to
nothing, and each other one refers to nothing or is a single reference; each value that is stored is
a phrase of bare words.  Then the references of the resolved line, grouped anew, leave it as it is,
whatever the policies and whichever names are known. -/
theorem substituteText_substituteText (policies : PolicyTable) {layers : List Store}
    (hvalues : ∀ layer ∈ layers, ∀ entry ∈ layer.entries, IsPhrase IsBare entry.2)
    {text first : String} {tokens : List String} (htext : wordsOf text = first :: tokens)
    (hfirst : RefersToNothing first)
    (htokens : ∀ token ∈ tokens, RefersToNothing token ∨ IsReference token) :
    substituteText policies layers (substituteText policies layers text) =
      substituteText policies layers text := by
  have hfound : ∀ name value, lookup name layers = some value → IsPhrase IsBare value := by
    intro name value hvalue
    obtain ⟨layer, hlayer, entry, hentry, rfl⟩ := exists_entry_of_lookup hvalue
    exact hvalues layer hlayer entry hentry
  have hwords : ∀ word ∈ wordsOf text, RefersToNothing word ∨ IsReference word := by
    rw [htext]
    exact List.forall_mem_cons.mpr ⟨.inl hfirst, htokens⟩
  calc substituteText policies layers (substituteText policies layers text)
      = (Line.parse policies (substituteText policies layers text)).raw :=
        substituteLine_eq_raw policies _ fun _ _ _ _ hoccurs =>
          resolved_again hfound hwords htext hfirst hoccurs
    _ = substituteText policies layers text := trimmed_substituteText hfound hwords

/-- A line on which a value of two words takes the place of one key and another key, which is kept,
takes the same value; the second time that key takes the first of its words. -/
theorem substituteText_substituteText_ping :
    let layers : List Store := [⟨[("-@to", "a b"), ("-@n", "3")]⟩]
    let text := " ping -@to\t-@n $\x7bto\x7d -@var(u) x"
    wordsOf text = ["ping", "-@to", "-@n", "$\x7bto\x7d", "-@var(u)", "x"] ∧
      substituteText .builtin layers text = "ping a b\t-@n a b -@var(u) x" ∧
      substituteText .builtin layers "ping a b\t-@n a b -@var(u) x" =
        "ping a b\t-@n a b -@var(u) x" := by
  intro layers text
  have hwords : wordsOf text = ["ping", "-@to", "-@n", "$\x7bto\x7d", "-@var(u)", "x"] := by
    decide +kernel
  have hresolved : substituteText .builtin layers text = "ping a b\t-@n a b -@var(u) x" := by
    decide +kernel
  have hbare : ∀ word ∈ ["a", "b", "3"], IsWord word.toList ∧ IsBare word := by
    simp only [List.forall_mem_cons, List.not_mem_nil, false_imp_iff, implies_true, and_true]
    refine ⟨⟨?_, ?_⟩, ⟨?_, ?_⟩, ⟨?_, ?_⟩⟩
    all_goals first
      | exact ⟨by decide, by decide, by decide, by decide⟩
      | exact ⟨by decide, by simp [isBlank]⟩
  have hphrase : ∀ ws : List String, ws ≠ [] → (∀ word ∈ ws, word ∈ ["a", "b", "3"]) →
      IsPhrase IsBare (String.intercalate " " ws) :=
    fun ws hne hws => ⟨ws, hne, fun word hword => hbare word (hws word hword), rfl⟩
  have hvalues : ∀ layer ∈ layers, ∀ entry ∈ layer.entries, IsPhrase IsBare entry.2 := by
    intro layer hlayer entry hentry
    obtain rfl := List.mem_singleton.mp hlayer
    rcases List.mem_cons.mp hentry with rfl | hentry
    · exact hphrase ["a", "b"] (by decide) (by decide)
    · obtain rfl := List.mem_singleton.mp hentry
      exact hphrase ["3"] (by decide) (by decide)
  have hname : ∀ name ∈ ["to", "n", "u"], IsName name := by
    simp [IsName, isBlank]
  have htokens : ∀ token ∈ ["-@to", "-@n", "$\x7bto\x7d", "-@var(u)", "x"],
      RefersToNothing token ∨ IsReference token := by
    simp only [List.forall_mem_cons, List.not_mem_nil, false_imp_iff, implies_true, and_true]
    exact ⟨.inr (.key (hname "to" (by simp))), .inr (.key (hname "n" (by simp))),
      .inr (.dollar (hname "to" (by simp))), .inr (.call (hname "u" (by simp))), .inl (by decide)⟩
  have hagain := substituteText_substituteText .builtin hvalues hwords (by decide) htokens
  rw [hresolved] at hagain
  exact ⟨hwords, hresolved, hagain⟩

end ScriptedShell.Variable
