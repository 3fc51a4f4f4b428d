/-
# Where the words of a line stand

Each word of a line stands at a position of one of its parts (`Occurs`).  A word with a dash can
only begin a part, and whether it is the key of a keyed part can be read off the words of the line
without grouping them: the policy does not leave it out, the rule gives it a value, and the next
word has no dash (`Occurs.keyed_iff`).
-/
import Mathlib
import ScriptedShell.Proofs.Command.Grouping

namespace ScriptedShell.Command

open Text

/-! ## Lists put together -/

section Lists

variable {α β : Type} {f : α → List β} {i : Nat} {b : β}

/-- What stands in one of several lists stands in all of them put together. -/
theorem getElem?_flatMap_append_cons {a : α} (h : (f a)[i]? = some b) (front back : List α) :
    ((front ++ a :: back).flatMap f)[(front.flatMap f).length + i]? = some b := by
  have hi := (List.getElem?_eq_some_iff.mp h).1
  rw [List.flatMap_append, List.flatMap_cons, List.getElem?_append_right (Nat.le_add_right _ _),
    Nat.add_sub_cancel_left, List.getElem?_append_left hi, h]

/-- What stands in several lists put together stands in one of them. -/
theorem exists_of_getElem?_flatMap {l : List α} (h : (l.flatMap f)[i]? = some b) :
    ∃ front a back j, l = front ++ a :: back ∧ (f a)[j]? = some b ∧
      i = (front.flatMap f).length + j := by
  induction l generalizing i with
  | nil => simp at h
  | cons a l ih =>
    rw [List.flatMap_cons] at h
    by_cases hhere : i < (f a).length
    · rw [List.getElem?_append_left hhere] at h
      exact ⟨[], a, l, i, rfl, h, by simp⟩
    · rw [List.getElem?_append_right (Nat.le_of_not_lt hhere)] at h
      obtain ⟨front, a', back, j, rfl, hj, hi⟩ := ih h
      refine ⟨a :: front, a', back, j, rfl, hj, ?_⟩
      rw [List.flatMap_cons, List.length_append]
      omega

end Lists

/-! ## Positions -/

/-- Whether the word with a number on a line is the word at a position of a part. -/
def Occurs (line : Line) (i : Nat) (part : Part) (position : Nat) (word : String) : Prop :=
  ∃ before after, line.parts = before ++ part :: after ∧ part.words[position]? = some word ∧
    i = (before.flatMap Part.words).length + position

/-- Each word of a line occurs in a part. -/
theorem exists_occurs {line : Line} {i : Nat} (hi : i < (line.parts.flatMap Part.words).length) :
    ∃ part position word, Occurs line i part position word := by
  obtain ⟨before, part, after, position, hline, hword, hi⟩ :=
    exists_of_getElem?_flatMap (List.getElem?_eq_getElem hi)
  exact ⟨part, position, _, before, after, hline, hword, hi⟩

/-- The word with a number on a line. -/
theorem Occurs.getElem? {line : Line} {i position : Nat} {part : Part} {word : String}
    (h : Occurs line i part position word) :
    (line.parts.flatMap Part.words)[i]? = some word := by
  obtain ⟨before, after, hline, hword, rfl⟩ := h
  rw [hline]
  exact getElem?_flatMap_append_cons hword before after

/-- The command of a line that is not blank is that of its first word. -/
theorem keyword_parse {policies : PolicyTable} {text name : String} {args : List String}
    (hwords : wordsOf text = name :: args) :
    (Line.parse policies text).keyword = Keyword.ofWord name := by
  simp only [Line.keyword, Line.parse, wordsOf_trimmed, hwords, groupLine_eq, List.take_succ_cons,
    List.map_cons, List.cons_append, List.mapIdx_cons, Part.value]

/-- A text with a word is not blank. -/
theorem not_isBlankText_of_word {text name : String} {args : List String}
    (hwords : wordsOf text = name :: args) : isBlankText text = false := by
  rw [Bool.eq_false_iff]
  intro hblank
  rw [wordsOf_of_isBlankText hblank] at hwords
  cases hwords

/-- A line with a word has parts. -/
theorem not_isBlank_parse {policies : PolicyTable} {text name : String} {args : List String}
    (hwords : wordsOf text = name :: args) : (Line.parse policies text).isBlank = false := by
  rw [Line.isBlank, Bool.eq_false_iff, Ne, List.isEmpty_iff]
  intro hnone
  have hparts := words_parse policies text
  rw [hnone, hwords] at hparts
  cases hparts

/-- A line is no comment when its first word has no dash in front. -/
theorem not_isComment_parse {policies : PolicyTable} {text name : String} {args : List String}
    (hwords : wordsOf text = name :: args) (hname : startsWith name "-" = false) :
    (Line.parse policies text).isComment = false := by
  have hraw : (Line.parse policies text).raw = trimmed text := rfl
  rw [Line.isComment, hraw, Bool.eq_false_iff, startsWith, Ne, List.isPrefixOf_iff_prefix]
  rintro ⟨rest, hrest⟩
  obtain ⟨word, more, hfirst⟩ := words_cons_of_not_blank (c := '-') (by decide) ('-' :: rest)
  -- the first word of a comment begins with a dash
  have hdash : wordsOf (trimmed text) = (('-' :: word) :: more).map String.ofList := by
    rw [wordsOf, ← hrest]
    exact congrArg (List.map String.ofList) hfirst
  rw [wordsOf_trimmed, hwords] at hdash
  have hhead : name = String.ofList ('-' :: word) := (List.cons.inj hdash).1
  simp [hhead, startsWith] at hname

/-! ## Parts before a part -/

namespace IsGrouping

variable {policy : Policy} {ws : List String} {parts before after : List Part} {part : Part}

/-- The number of a part is the number of parts before it. -/
theorem index_eq_length (h : IsGrouping policy ws parts) (hparts : parts = before ++ part :: after) :
    part.index = before.length := by
  refine h.index before.length part ?_
  rw [hparts, List.getElem?_append_right le_rfl, Nat.sub_self, List.getElem?_cons_zero]

/-- No more parts than words stand before a part. -/
theorem index_le (h : IsGrouping policy ws parts) (hparts : parts = before ++ part :: after) :
    part.index ≤ (before.flatMap Part.words).length := by
  have hle := List.length_le_sum_of_one_le (before.map fun p => p.words.length) fun n hn => by
    obtain ⟨p, hp, rfl⟩ := List.mem_map.mp hn
    exact List.length_pos_iff.mpr (h.nonempty p (hparts ▸ List.mem_append_left _ hp))
  rw [h.index_eq_length hparts, List.length_flatMap]
  rwa [List.length_map] at hle

/-- Where the policy leaves words out, as many words as parts stand before a part. -/
theorem index_eq_of_le_skip (h : IsGrouping policy ws parts)
    (hparts : parts = before ++ part :: after) (hskip : part.index ≤ policy.skip) :
    part.index = (before.flatMap Part.words).length := by
  have halone : ∀ n ∈ before.map fun p => p.words.length, n = 1 := by
    intro n hn
    obtain ⟨p, hp, rfl⟩ := List.mem_map.mp hn
    have hmem : p ∈ parts := hparts ▸ List.mem_append_left _ hp
    obtain ⟨first, more, hwords⟩ := List.exists_cons_of_ne_nil (h.nonempty p hmem)
    cases more with
    | nil => rw [hwords, List.length_singleton]
    | cons second more =>
      -- a second word would have joined a part that is left out
      have hlater := (h.joined p hmem [first] second more hwords (List.cons_ne_nil _ _)).later
      obtain ⟨front, back, rfl⟩ := List.append_of_mem hp
      have hp' : parts = front ++ p :: (back ++ part :: after) := by rw [hparts]; simp
      have hindex := h.index_eq_length hp'
      have hpart := h.index_eq_length hparts
      rw [List.length_append] at hpart
      dsimp only at hlater
      omega
  rw [h.index_eq_length hparts, List.length_flatMap, List.sum_eq_card_nsmul _ 1 halone]
  simp

/-- A word with a dash begins a part. -/
theorem position_eq_zero (h : IsGrouping policy ws parts) (hpart : part ∈ parts) {position : Nat}
    {word : String} (hword : part.words[position]? = some word)
    (hdash : startsWith word "-" = true) : position = 0 := by
  obtain ⟨hlt, hget⟩ := List.getElem?_eq_some_iff.mp hword
  have hwords : part.words =
      part.words.take position ++ word :: part.words.drop (position + 1) := by
    rw [← hget, List.cons_getElem_drop_succ, List.take_append_drop]
  by_contra hne
  have hjoined := h.joined part hpart _ word _ hwords fun hnil => hne (by
    have hlength := congrArg List.length hnil
    rw [List.length_take, List.length_nil] at hlength
    omega)
  rw [hjoined.noDash] at hdash
  cases hdash

/-- A word that begins a part with another word in it takes this one: the policy does not leave it
out, the rule gives it a value, and the other word has no dash. -/
theorem takes_of_cons (h : IsGrouping policy ws parts) (hparts : parts = before ++ part :: after)
    {word second : String} {more : List String} (hwords : part.words = word :: second :: more) :
    policy.skip < (before.flatMap Part.words).length ∧ policy.rule.accepts word = true ∧
      startsWith second "-" = false := by
  have hmem : part ∈ parts := hparts ▸ List.mem_append_right before List.mem_cons_self
  obtain ⟨hnoDash, hlater, key, others, hkey, haccepts, -⟩ :=
    h.joined part hmem [word] second more hwords (List.cons_ne_nil _ _)
  obtain rfl : word = key := (List.cons.inj hkey).1
  have hindex := h.index_le hparts
  exact ⟨Nat.lt_of_lt_of_le hlater hindex, haccepts, hnoDash⟩

/-- A word that is a part of its own does not take the first word of the next part. -/
theorem not_takes_of_singleton {next : Part} (h : IsGrouping policy ws parts)
    (hparts : parts = before ++ part :: next :: after) {word first : String} {more : List String}
    (hwords : part.words = [word]) (hnext : next.words = first :: more)
    (hskip : policy.skip < (before.flatMap Part.words).length)
    (haccepts : policy.rule.accepts word = true) : startsWith first "-" = true := by
  by_contra hdash
  have hlater : policy.skip < part.index := by
    by_contra hle
    have hindex := h.index_eq_of_le_skip hparts (Nat.le_of_not_lt hle)
    omega
  refine h.begun before.length part next first more ?_ ?_ hnext
    ⟨Bool.eq_false_iff.mpr hdash, hlater, word, [], hwords, haccepts, .inl rfl⟩
  · rw [hparts, List.getElem?_append_right le_rfl, Nat.sub_self, List.getElem?_cons_zero]
  · rw [hparts, List.getElem?_append_right (Nat.le_add_right _ 1), Nat.add_sub_cancel_left]
    rfl

end IsGrouping

/-! ## Keys -/

section Keys

variable {policies : PolicyTable} {text word : String} {part : Part} {i position : Nat}

/-- A word with a dash is the first of its part. -/
theorem Occurs.of_dash (h : Occurs (.parse policies text) i part position word)
    (hdash : startsWith word "-" = true) :
    position = 0 ∧ ∃ before rest after,
      (Line.parse policies text).parts = before ++ part :: after ∧ part.words = word :: rest ∧
        i = (before.flatMap Part.words).length := by
  obtain ⟨before, after, hline, hword, rfl⟩ := h
  have hmem : part ∈ (Line.parse policies text).parts := by
    rw [hline]
    exact List.mem_append_right before List.mem_cons_self
  obtain rfl := (isGrouping_parse policies text).position_eq_zero hmem hword hdash
  refine ⟨rfl, before, part.words.tail, after, hline, ?_, rfl⟩
  exact (List.cons_head?_tail (List.head?_eq_getElem? ▸ hword)).symm

/-- A word with a dash in the command's own part is the first word of the line. -/
theorem Occurs.eq_zero (h : Occurs (.parse policies text) i part position word)
    (hdash : startsWith word "-" = true) (hindex : part.index = 0) : i = 0 := by
  obtain ⟨-, before, rest, after, hline, -, rfl⟩ := h.of_dash hdash
  rw [← (isGrouping_parse policies text).index_eq_of_le_skip hline (hindex ▸ Nat.zero_le _), hindex]

/-- **When a word with a dash is the key of a keyed part**: the policy does not leave it out, the
rule gives it a value, and the next word of the line has no dash. -/
theorem Occurs.keyed_iff (h : Occurs (.parse policies text) i part position word)
    (hdash : startsWith word "-" = true) :
    (part.key?.isSome ∧ position = 0) ↔
      (policyFor policies (wordsOf text)).skip < i ∧
        (policyFor policies (wordsOf text)).rule.accepts word = true ∧
        ∃ next, (wordsOf text)[i + 1]? = some next ∧ startsWith next "-" = false := by
  have hgrouping := isGrouping_parse policies text
  obtain ⟨rfl, before, rest, after, hline, hwords, rfl⟩ := h.of_dash hdash
  have hnext : (wordsOf text)[(before.flatMap Part.words).length + 1]? =
      (rest ++ after.flatMap Part.words)[0]? := by
    rw [← words_parse policies text, hline, List.flatMap_append, List.flatMap_cons, hwords,
      List.cons_append, List.getElem?_append_right (Nat.le_add_right _ 1),
      Nat.add_sub_cancel_left, List.getElem?_cons_succ]
  rw [hnext]
  cases rest with
  | cons second more =>
    obtain ⟨hskip, haccepts, hnoDash⟩ := hgrouping.takes_of_cons hline hwords
    exact iff_of_true ⟨by rw [Part.key?, hwords]; rfl, rfl⟩ ⟨hskip, haccepts, second, rfl, hnoDash⟩
  | nil =>
    refine iff_of_false (by rw [Part.key?, hwords]; simp) ?_
    rintro ⟨hskip, haccepts, next, hfirst, hnoDash⟩
    cases after with
    | nil => cases hfirst
    | cons other after =>
      obtain ⟨first, more, hother⟩ := List.exists_cons_of_ne_nil
        (hgrouping.nonempty other (by rw [hline]; simp))
      obtain rfl : first = next := by
        rw [List.flatMap_cons, hother] at hfirst
        exact Option.some.inj hfirst
      rw [hgrouping.not_takes_of_singleton hline hwords hother hskip haccepts] at hnoDash
      cases hnoDash

end Keys

end ScriptedShell.Command
