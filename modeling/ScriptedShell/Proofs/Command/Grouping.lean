/-
# How the words of a line are grouped

A line is cut into parts word by word: each word either joins the part before it or begins a new
one.  `IsGrouping` says which of the two, without saying how the parts are found, and the parts of
a line are the only ones of which it is true (`parse_parts_iff`).  That there are no others is a
fact about cuts in general: where two cuts of the same words part, a word joins what stands before
it in the one and does not in the other (`IsCut.unique`).
-/
import Mathlib
import ScriptedShell.Command.Line
import ScriptedShell.Proofs.Text.Words

namespace ScriptedShell.Command

open Text

/-! ## Nothing is lost -/

/-- Grouping after an open group loses no word. -/
theorem flatten_groupFrom (rule : CaptureRule) (part rest : List String) :
    (groupFrom rule part rest).flatten = part ++ rest := by
  induction rest generalizing part with
  | nil => simp [groupFrom]
  | cons word rest ih =>
    rw [groupFrom]
    split_ifs
    · rw [ih, List.append_assoc, List.singleton_append]
    · rw [List.flatten_cons, ih, List.singleton_append]

/-- Groups of one word each hold these words. -/
theorem flatten_singles (ws : List String) : (ws.map fun word => [word]).flatten = ws := by
  induction ws with
  | nil => rfl
  | cons word ws ih => rw [List.map_cons, List.flatten_cons, ih, List.singleton_append]

/-- The groups of a line that is not blank: its first words, each alone, and the groups of the
others. -/
theorem groupLine_eq (policies : PolicyTable) (name : String) (args : List String) :
    groupLine policies (name :: args) =
      (((name :: args).take ((policies (Keyword.ofWord name)).skip + 1)).map fun word => [word]) ++
        groupWords (policies (Keyword.ofWord name)).rule
          ((name :: args).drop ((policies (Keyword.ofWord name)).skip + 1)) := rfl

/-- Grouping loses no word. -/
theorem flatten_groupWords (rule : CaptureRule) (ws : List String) :
    (groupWords rule ws).flatten = ws := by
  cases ws with
  | nil => rfl
  | cons word rest => exact flatten_groupFrom rule [word] rest

/-- Grouping the words of a line loses none. -/
theorem flatten_groupLine (policies : PolicyTable) (ws : List String) :
    (groupLine policies ws).flatten = ws := by
  cases ws with
  | nil => rfl
  | cons name args =>
    rw [groupLine_eq, List.flatten_append, flatten_singles, flatten_groupWords,
      List.take_append_drop]

/-- Parts put at their places hold the groups that they are made of. -/
theorem map_words_mapIdx (groups : List (List String)) :
    (groups.mapIdx Part.mk).map Part.words = groups := by
  refine List.ext_getElem (by simp) fun i hi hi' => ?_
  rw [List.getElem_map, List.getElem_mapIdx]

/-- The words of the parts of a line are the words of its text. -/
theorem words_parse (policies : PolicyTable) (text : String) :
    (Line.parse policies text).parts.flatMap Part.words = wordsOf text := by
  rw [Line.parse, List.flatMap, map_words_mapIdx, flatten_groupLine, wordsOf_trimmed]

/-! ## Cuts -/

/-- Whether groups, of which the first has the number `n`, are a cut after a rule `J`, which says
whether a word joins a group with a number: no group is empty, the words inside of groups have
joined what stands before them, and the first word of a group does not join the group before. -/
structure IsCut (J : Nat → List String → String → Prop) (n : Nat) (groups : List (List String)) :
    Prop where
  nonempty : [] ∉ groups
  joined : ∀ i group, groups[i]? = some group → ∀ front word back,
    group = front ++ word :: back → front ≠ [] → J (n + i) front word
  begun : ∀ i group word more, groups[i]? = some group → groups[i + 1]? = some (word :: more) →
    ¬J (n + i) group word

/-- Nothing stands before a word that is alone. -/
theorem eq_nil_of_singleton_eq {word word' : String} {front back : List String}
    (h : [word] = front ++ word' :: back) : front = [] := by
  cases front with
  | nil => rfl
  | cons first front => simp at h

namespace IsCut

variable {J : Nat → List String → String → Prop} {n : Nat} {group extra : List String}
  {groups groups' : List (List String)}

/-- No groups are a cut. -/
theorem nil : IsCut J n [] := ⟨by simp, by simp, by simp⟩

/-- A group before a cut. -/
theorem cons (hne : group ≠ [])
    (hjoined : ∀ front word back, group = front ++ word :: back → front ≠ [] → J n front word)
    (hbegun : ∀ word more, groups[0]? = some (word :: more) → ¬J n group word)
    (h : IsCut J (n + 1) groups) : IsCut J n (group :: groups) where
  nonempty := by
    rw [List.mem_cons, not_or]
    exact ⟨hne.symm, h.nonempty⟩
  joined i other hother := by
    cases i with
    | zero =>
      obtain rfl : group = other := by simpa using hother
      exact hjoined
    | succ i =>
      rw [Nat.add_comm i 1, ← Nat.add_assoc]
      exact h.joined i other hother
  begun i other word more hother hnext := by
    cases i with
    | zero =>
      obtain rfl : group = other := by simpa using hother
      exact hbegun word more hnext
    | succ i =>
      rw [Nat.add_comm i 1, ← Nat.add_assoc]
      exact h.begun i other word more hother hnext

/-- The groups after the first one are a cut. -/
theorem tail (h : IsCut J n (group :: groups)) : IsCut J (n + 1) groups where
  nonempty hmem := h.nonempty (List.mem_cons_of_mem _ hmem)
  joined i other hother := by
    rw [Nat.add_right_comm]
    exact h.joined (i + 1) other hother
  begun i other word more hother hnext := by
    rw [Nat.add_right_comm]
    exact h.begun (i + 1) other word more hother hnext

/-- The first group of a cut is not longer than that of another cut of the same words. -/
theorem extra_eq_nil (h : IsCut J n (group :: groups)) (h' : IsCut J n ((group ++ extra) :: groups'))
    (hwords : groups.flatten = extra ++ groups'.flatten) : extra = [] := by
  have hgroup : group ≠ [] := fun hnil => h.nonempty (hnil ▸ List.mem_cons_self)
  cases extra with
  | nil => rfl
  | cons word extra =>
    -- the word begins the second group of the one cut and has joined the first of the other
    cases groups with
    | nil => cases hwords
    | cons next groups =>
      cases next with
      | nil => exact absurd (List.mem_cons_of_mem group List.mem_cons_self) h.nonempty
      | cons word' more =>
        obtain rfl : word' = word := (List.cons.inj hwords).1
        exact absurd (h'.joined 0 _ rfl group word' extra rfl hgroup)
          (h.begun 0 group word' more rfl rfl)

/-- **There is one cut of the same words.** -/
theorem unique (h : IsCut J n groups) (h' : IsCut J n groups')
    (hwords : groups.flatten = groups'.flatten) : groups = groups' := by
  have hempty : ∀ {gs : List (List String)}, [] ∉ gs → [] = gs.flatten → gs = [] := by
    intro gs hgs hflatten
    cases gs with
    | nil => rfl
    | cons g gs =>
      obtain ⟨rfl, -⟩ := List.append_eq_nil_iff.mp hflatten.symm
      exact absurd List.mem_cons_self hgs
  induction groups generalizing n groups' with
  | nil => exact (hempty h'.nonempty hwords).symm
  | cons group groups ih =>
    cases groups' with
    | nil => exact hempty h.nonempty hwords.symm
    | cons group' groups' =>
      obtain ⟨extra, rfl, hrest⟩ | ⟨extra, rfl, hrest⟩ := List.append_eq_append_iff.mp hwords
      · obtain rfl := h.extra_eq_nil h' hrest
        rw [List.append_nil] at h' ⊢
        rw [ih h.tail h'.tail hrest]
      · obtain rfl := h'.extra_eq_nil h hrest
        rw [List.append_nil] at h ⊢
        rw [ih h.tail h'.tail hrest.symm]

/-- Words each alone before a cut, where no word joins these. -/
theorem singles {ws : List String} (hno : ∀ i < n + ws.length, ∀ front word, ¬J i front word)
    (h : IsCut J (n + ws.length) groups) :
    IsCut J n ((ws.map fun word => [word]) ++ groups) := by
  induction ws generalizing n with
  | nil => exact h
  | cons word ws ih =>
    rw [List.length_cons, Nat.add_comm ws.length, ← Nat.add_assoc] at hno h
    refine .cons (List.cons_ne_nil word []) ?_ (fun _ _ _ => hno n (by omega) _ _) (ih hno h)
    exact fun front word' back hfront hne => absurd (eq_nil_of_singleton_eq hfront) hne

end IsCut

/-- The first group after an open one goes on with its words. -/
theorem exists_groupFrom (rule : CaptureRule) (part rest : List String) :
    ∃ taken groups, groupFrom rule part rest = (part ++ taken) :: groups := by
  induction rest generalizing part with
  | nil => exact ⟨[], [], by rw [List.append_nil]; rfl⟩
  | cons word rest ih =>
    rw [groupFrom]
    split_ifs
    · obtain ⟨taken, groups, hgroups⟩ := ih (part ++ [word])
      exact ⟨word :: taken, groups, by rw [hgroups, List.append_assoc, List.singleton_append]⟩
    · exact ⟨[], _, by rw [List.append_nil]⟩

/-- Grouping after an open group is a cut, after any rule by which words join as they do there. -/
theorem isCut_groupFrom {rule : CaptureRule} {J : Nat → List String → String → Prop} {n : Nat}
    (hJ : ∀ i, n ≤ i → ∀ front word, J i front word ↔ joins rule front word = true)
    {part : List String} (hne : part ≠ [])
    (hpart : ∀ front word back, part = front ++ word :: back → front ≠ [] → J n front word)
    (rest : List String) : IsCut J n (groupFrom rule part rest) := by
  induction rest generalizing n part with
  | nil => exact .cons hne hpart (by simp) .nil
  | cons word rest ih =>
    rw [groupFrom]
    split_ifs with hjoins
    · refine ih hJ (by simp) fun front word' back hfront hfront' => ?_
      -- the new word is the last one of the group, and the others were there before
      rcases List.eq_nil_or_concat back with rfl | ⟨back, last, rfl⟩
      · obtain ⟨rfl, hlast⟩ := List.append_inj' hfront rfl
        obtain rfl : word = word' := by simpa using hlast
        exact (hJ n le_rfl _ _).mpr hjoins
      · rw [List.concat_eq_append, ← List.cons_append, ← List.append_assoc] at hfront
        exact hpart front word' back (List.append_inj' hfront rfl).1 hfront'
    · have hrest : IsCut J (n + 1) (groupFrom rule [word] rest) := by
        refine ih (fun i hi => hJ i (by omega)) (List.cons_ne_nil word []) ?_
        exact fun front word' back hfront hne => absurd (eq_nil_of_singleton_eq hfront) hne
      refine .cons hne hpart (fun first more hfirst => ?_) hrest
      obtain ⟨taken, groups, hgroups⟩ := exists_groupFrom rule [word] rest
      rw [hgroups] at hfirst
      obtain ⟨rfl, -⟩ : word = first ∧ taken = more := by simpa using hfirst
      rw [hJ n le_rfl]
      exact hjoins

/-! ## The grouping of a line -/

/-- Whether a word joins a part that stands before it under a policy: the word has no dash, the part
is neither the command's own nor one of those that the policy leaves out, and its first word takes a
value, being alone or under the rule by which words take all values. -/
structure Joins (policy : Policy) (part : Part) (word : String) : Prop where
  noDash : startsWith word "-" = false
  later : policy.skip < part.index
  takes : ∃ key more, part.words = key :: more ∧ policy.rule.accepts key = true ∧
    (more = [] ∨ policy.rule = .alwaysCapture)

/-- Whether parts are the grouping of words under a policy. -/
structure IsGrouping (policy : Policy) (ws : List String) (parts : List Part) : Prop where
  /-- No word is lost, and the words keep their order. -/
  words : parts.flatMap Part.words = ws
  index : ∀ (i : Nat) (part : Part), parts[i]? = some part → part.index = i
  nonempty : ∀ part ∈ parts, part.words ≠ []
  /-- The first word and those that the policy leaves out are parts of their own. -/
  alone : ∀ (i : Nat) (word : String), i ≤ policy.skip → ws[i]? = some word →
    parts[i]? = some ⟨i, [word]⟩
  /-- A word inside of a part has joined what stands before it. -/
  joined : ∀ part ∈ parts, ∀ front word back, part.words = front ++ word :: back → front ≠ [] →
    Joins policy ⟨part.index, front⟩ word
  /-- The first word of a part does not join the part before. -/
  begun : ∀ (i : Nat) (part next : Part) (word : String) (more : List String),
    parts[i]? = some part → parts[i + 1]? = some next → next.words = word :: more →
      ¬Joins policy part word

section Parts

variable {policy : Policy} {ws : List String} {parts parts' : List Part}

/-- Whether a word joins a part, in terms of grouping. -/
theorem joins_iff {i : Nat} {front : List String} {word : String} :
    Joins policy ⟨i, front⟩ word ↔ policy.skip < i ∧ joins policy.rule front word = true := by
  rw [joins.eq_def, Bool.and_eq_true, Bool.not_eq_true']
  constructor
  · rintro ⟨hdash, hlater, key, more, hfront, haccepts, hmore⟩
    obtain rfl : front = key :: more := hfront
    refine ⟨hlater, hdash, ?_⟩
    cases more with
    | nil => exact haccepts
    | cons second more =>
      obtain hrule := hmore.resolve_left (List.cons_ne_nil second more)
      simp [CaptureRule.keepsCapturing, hrule, CaptureRule.accepts]
  · rintro ⟨hlater, hdash, htakes⟩
    refine ⟨hdash, hlater, ?_⟩
    match front with
    | [key] => exact ⟨key, [], rfl, htakes, .inl rfl⟩
    | key :: second :: more =>
      rw [Bool.and_eq_true, CaptureRule.keepsCapturing, decide_eq_true_eq] at htakes
      exact ⟨key, second :: more, rfl, htakes.2, .inr htakes.1⟩

/-- Parts that are numbered are made of their words. -/
theorem eq_mapIdx_of_index
    (hindex : ∀ (i : Nat) (part : Part), parts[i]? = some part → part.index = i) :
    parts = (parts.map Part.words).mapIdx Part.mk := by
  refine List.ext_getElem (by simp) fun i hi hi' => ?_
  rw [List.getElem_mapIdx, List.getElem_map]
  have hnumber : parts[i].index = i := hindex i parts[i] (List.getElem?_eq_getElem hi)
  calc parts[i] = ⟨parts[i].index, parts[i].words⟩ := rfl
    _ = ⟨i, parts[i].words⟩ := by rw [hnumber]

/-- The groups of a grouping are a cut. -/
theorem IsGrouping.isCut (h : IsGrouping policy ws parts) :
    IsCut (fun i front word => Joins policy ⟨i, front⟩ word) 0 (parts.map Part.words) where
  nonempty hmem := by
    obtain ⟨part, hpart, hnil⟩ := List.mem_map.mp hmem
    exact h.nonempty part hpart hnil
  joined i group hgroup front word back hfront hne := by
    rw [List.getElem?_map] at hgroup
    obtain ⟨part, hpart, rfl⟩ := Option.map_eq_some_iff.mp hgroup
    rw [Nat.zero_add, ← h.index i part hpart]
    exact h.joined part (List.mem_of_getElem? hpart) front word back hfront hne
  begun i group word more hgroup hnext := by
    rw [List.getElem?_map] at hgroup hnext
    obtain ⟨part, hpart, rfl⟩ := Option.map_eq_some_iff.mp hgroup
    obtain ⟨next, hnext, hwords⟩ := Option.map_eq_some_iff.mp hnext
    rw [Nat.zero_add, ← h.index i part hpart]
    exact h.begun i part next word more hpart hnext hwords

/-- **There is one grouping of words under a policy.** -/
theorem IsGrouping.unique (h : IsGrouping policy ws parts) (h' : IsGrouping policy ws parts') :
    parts = parts' := by
  have hwords : parts.map Part.words = parts'.map Part.words :=
    h.isCut.unique h'.isCut (h.words.trans h'.words.symm)
  rw [eq_mapIdx_of_index h.index, hwords, ← eq_mapIdx_of_index h'.index]

/-- Groups that are a cut, with the first words each alone, make a grouping. -/
theorem isGrouping_mapIdx {groups : List (List String)} (hwords : groups.flatten = ws)
    (halone : ∀ (i : Nat) (word : String), i ≤ policy.skip → ws[i]? = some word →
      groups[i]? = some [word])
    (hcut : IsCut (fun i front word => Joins policy ⟨i, front⟩ word) 0 groups) :
    IsGrouping policy ws (groups.mapIdx Part.mk) := by
  have hget : ∀ (i : Nat) (part : Part), (groups.mapIdx Part.mk)[i]? = some part →
      part.index = i ∧ groups[i]? = some part.words := by
    intro i part hpart
    rw [List.getElem?_mapIdx] at hpart
    obtain ⟨group, hgroup, rfl⟩ := Option.map_eq_some_iff.mp hpart
    exact ⟨rfl, hgroup⟩
  refine ⟨?_, fun i part hpart => (hget i part hpart).1, ?_, ?_, ?_, ?_⟩
  · rw [List.flatMap, map_words_mapIdx, hwords]
  · intro part hpart hnil
    obtain ⟨i, hi⟩ := List.getElem?_of_mem hpart
    have hgroup := (hget i part hi).2
    rw [hnil] at hgroup
    exact hcut.nonempty (List.mem_of_getElem? hgroup)
  · intro i word hi hword
    rw [List.getElem?_mapIdx, halone i word hi hword]
    rfl
  · intro part hpart front word back hfront hne
    obtain ⟨i, hi⟩ := List.getElem?_of_mem hpart
    obtain ⟨rfl, hgroup⟩ := hget i part hi
    have hjoined := hcut.joined _ _ hgroup front word back hfront hne
    rwa [Nat.zero_add] at hjoined
  · intro i part next word more hpart hnext hfirst
    obtain ⟨rfl, hgroup⟩ := hget i part hpart
    have hnext' := (hget _ next hnext).2
    rw [hfirst] at hnext'
    have hbegun := hcut.begun _ _ word more hgroup hnext'
    rwa [Nat.zero_add] at hbegun

end Parts

/-- The policy for the words of a line: that of the command that the first word names. -/
def policyFor (policies : PolicyTable) (ws : List String) : Policy :=
  policies (Keyword.ofWord (ws.headD ""))

/-- The groups of a line are a cut. -/
theorem isCut_groupLine (policies : PolicyTable) (ws : List String) :
    IsCut (fun i front word => Joins (policyFor policies ws) ⟨i, front⟩ word) 0
      (groupLine policies ws) := by
  cases ws with
  | nil => exact .nil
  | cons name args =>
    have hpolicy : policyFor policies (name :: args) = policies (Keyword.ofWord name) := rfl
    rw [groupLine_eq, hpolicy]
    generalize policies (Keyword.ofWord name) = policy
    refine .singles (fun i hi front word hjoins => ?_) ?_
    · have hlater := hjoins.later
      rw [List.length_take] at hi
      dsimp only at hlater
      omega
    · rw [groupWords.eq_def]
      split
      · exact .nil
      · next word rest hrest =>
        -- there are words after those that are left out, so that all of these are there
        have hlength : (name :: args).length = policy.skip + 1 + (rest.length + 1) := by
          have hparts := congrArg List.length
            (List.take_append_drop (policy.skip + 1) (name :: args))
          have hdrop := congrArg List.length hrest
          simp only [List.length_append, List.length_take, List.length_drop, List.length_cons]
            at hparts hdrop ⊢
          omega
        refine isCut_groupFrom (fun i hi front word => ?_) (List.cons_ne_nil word []) ?_ rest
        · rw [joins_iff, and_iff_right]
          rw [List.length_take] at hi
          omega
        · exact fun front word' back hfront hne => absurd (eq_nil_of_singleton_eq hfront) hne

/-- The first words of a line are groups of their own. -/
theorem getElem?_groupLine (policies : PolicyTable) {ws : List String} {i : Nat} {word : String}
    (hi : i ≤ (policyFor policies ws).skip) (hword : ws[i]? = some word) :
    (groupLine policies ws)[i]? = some [word] := by
  cases ws with
  | nil => cases hword
  | cons name args =>
    change i ≤ (policies (Keyword.ofWord name)).skip at hi
    have htaken : ((name :: args).take ((policies (Keyword.ofWord name)).skip + 1))[i]? =
        some word := by
      rw [List.getElem?_take_of_lt (by omega), hword]
    rw [groupLine_eq, List.getElem?_append_left, List.getElem?_map, htaken]
    · rfl
    · rw [List.length_map]
      exact (List.getElem?_eq_some_iff.mp htaken).1

/-- **The parts of a line are a grouping of its words.** -/
theorem isGrouping_parse (policies : PolicyTable) (text : String) :
    IsGrouping (policyFor policies (wordsOf text)) (wordsOf text)
      (Line.parse policies text).parts := by
  rw [Line.parse, wordsOf_trimmed]
  exact isGrouping_mapIdx (flatten_groupLine policies (wordsOf text))
    (fun i word hi hword => getElem?_groupLine policies hi hword)
    (isCut_groupLine policies (wordsOf text))

/-! ## The main statement -/

/-- The pieces of a text between its blanks, the empty ones left out. -/
def tokensOf (text : String) : List String :=
  ((text.toList.splitOnP isBlank).filter fun piece => !piece.isEmpty).map String.ofList

/-- The words of a text are its pieces between blanks. -/
theorem wordsOf_eq_tokensOf (text : String) : wordsOf text = tokensOf text := by
  rw [wordsOf, words_eq_nonempty, splitAtEach_eq_splitOnP, nonempty, tokensOf]

/-- **How a line is grouped.**  The parts of a line are the one grouping of its words, the pieces of
its text between blanks, under the policy of the command that the first of them names.  A part has a
key exactly when it holds two words or more; then the key is the first of them, and its value the
others joined by single spaces. -/
theorem parse_parts_iff (policies : PolicyTable) (text : String) :
    (∀ parts, (Line.parse policies text).parts = parts ↔
      IsGrouping (policyFor policies (tokensOf text)) (tokensOf text) parts) ∧
    ∀ part ∈ (Line.parse policies text).parts,
      (part.key?.isSome ↔ 2 ≤ part.words.length) ∧
      ∀ key rest, part.words = key :: rest → rest ≠ [] →
        part.key? = some key ∧ part.value = String.intercalate " " rest := by
  have hparse := isGrouping_parse policies text
  rw [wordsOf_eq_tokensOf] at hparse
  refine ⟨fun parts => ⟨fun h => h ▸ hparse, fun h => hparse.unique h⟩, fun part _ => ⟨?_, ?_⟩⟩
  · rw [Part.key?]
    rcases part.words with _ | ⟨key, _ | ⟨second, rest⟩⟩ <;> simp
  · intro key rest hwords hrest
    obtain ⟨second, more, rfl⟩ := List.exists_cons_of_ne_nil hrest
    rw [Part.key?, Part.value, hwords]
    exact ⟨rfl, rfl⟩

/-- A line that opens a session: the address is left out of grouping although it has a dash, a
secret flag takes a value, and the name of a variable does not. -/
theorem parse_parts_iff_leftOut :
    let text := " ssh  -box -#p hunter2 -@x 1 "
    let parts : List Part :=
      [⟨0, ["ssh"]⟩, ⟨1, ["-box"]⟩, ⟨2, ["-#p", "hunter2"]⟩, ⟨3, ["-@x"]⟩, ⟨4, ["1"]⟩]
    IsGrouping ⟨.valueDashButNotMarked, 1⟩ ["ssh", "-box", "-#p", "hunter2", "-@x", "1"] parts ∧
      ⟨2, ["-#p", "hunter2"]⟩ ∈ (Line.parse .builtin text).parts ∧
      (⟨2, ["-#p", "hunter2"]⟩ : Part).key? = some "-#p" ∧
      (⟨2, ["-#p", "hunter2"]⟩ : Part).value = String.intercalate " " ["hunter2"] := by
  intro text parts
  have hparts : (Line.parse .builtin text).parts = parts := by decide +kernel
  have hmem : ⟨2, ["-#p", "hunter2"]⟩ ∈ (Line.parse .builtin text).parts := by
    rw [hparts]
    decide
  have htokens : tokensOf text = ["ssh", "-box", "-#p", "hunter2", "-@x", "1"] := by
    decide +kernel
  have hpolicy : policyFor .builtin (tokensOf text) = ⟨.valueDashButNotMarked, 1⟩ := by
    decide +kernel
  obtain ⟨hiff, hkeyed⟩ := parse_parts_iff .builtin text
  have hgrouping := (hiff parts).mp hparts
  rw [hpolicy, htokens] at hgrouping
  exact ⟨hgrouping, hmem, (hkeyed _ hmem).2 "-#p" ["hunter2"] rfl (by decide)⟩

end ScriptedShell.Command
