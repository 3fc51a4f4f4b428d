/-
# What a masked line shows of a secret

A line is shown with the values of its secret flags hidden.  What counts as a value is decided by
grouping: the word after a secret flag is hidden exactly when the policy of the command leaves the
flag to its rule and the rule gives the flag a value (`masked_eq_iff`).  Under the builtin policies
these are the commands that take flags, with one exception: the first argument of the command that
opens a session is left out of grouping, so a secret flag in its place shows the word after it.
Behind that argument flags are grouped with their values (`groupLine_connect`).
-/
import Mathlib
import ScriptedShell.Command.Line
import ScriptedShell.Proofs.Text.Words

namespace ScriptedShell.Command

open Text

/-! ## Groups as they are shown -/

/-- A group of words as it is shown. -/
def maskedGroup (words : List String) : String := (Part.mk 0 words).masked

/-- A masked line is made of its groups, whatever the blanks between its words. -/
theorem masked_parse (policies : PolicyTable) (text : String) :
    (Line.parse policies text).masked =
      String.intercalate " " ((groupLine policies (wordsOf text)).map maskedGroup) := by
  have hgroups : ∀ groups : List (List String),
      (groups.mapIdx Part.mk).map Part.masked = groups.map maskedGroup := by
    intro groups
    refine List.ext_getElem (by simp) fun i hi hi' => ?_
    rw [List.getElem_map, List.getElem_mapIdx, List.getElem_map]
    rfl
  rw [Line.masked, Line.parse, wordsOf_trimmed, hgroups]

/-- A group that begins with a secret flag shows nothing of its other words. -/
theorem maskedGroup_secret {flag : String} (hflag : startsWith flag secretMarker = true)
    (value : String) (more : List String) :
    maskedGroup (flag :: value :: more) = flag ++ " " ++ Part.mask := by
  rw [maskedGroup, Part.masked, Part.key?]
  simp only [hflag, if_true]

/-- A group that begins with no secret flag shows all of its words. -/
theorem maskedGroup_plain {first : String} (hfirst : startsWith first secretMarker = false)
    (more : List String) :
    maskedGroup (first :: more) = String.intercalate " " (first :: more) := by
  rw [maskedGroup, Part.masked]
  cases more with
  | nil => rfl
  | cons second rest =>
    rw [Part.key?]
    simp only [hfirst, Bool.false_eq_true, if_false]

/-! ## Dashes and markers -/

/-- A text that begins with a longer marker begins with its first part. -/
theorem startsWith_of_append {s start : String} (more : String)
    (h : startsWith s (start ++ more) = true) : startsWith s start = true := by
  rw [startsWith, List.isPrefixOf_iff_prefix] at h ⊢
  rw [String.toList_append] at h
  exact (List.prefix_append _ _).trans h

/-- A secret flag has a dash. -/
theorem dash_of_secret {flag : String} (hflag : startsWith flag secretMarker = true) :
    startsWith flag "-" = true := startsWith_of_append "#" hflag

/-- A word without a dash has no marker. -/
theorem not_marked_of_not_dash {word : String} (more : String)
    (hword : startsWith word "-" = false) :
    startsWith word ("-" ++ more) = false := by
  rw [Bool.eq_false_iff] at hword ⊢
  exact fun hmarked => hword (startsWith_of_append more hmarked)

/-- A secret flag names no variable. -/
theorem not_variable_of_secret {flag : String} (hflag : startsWith flag secretMarker = true) :
    startsWith flag variableMarker = false := by
  rw [Bool.eq_false_iff]
  intro hvariable
  rw [startsWith, List.isPrefixOf_iff_prefix] at hflag hvariable
  obtain ⟨x, hx⟩ := hflag
  obtain ⟨y, hy⟩ := hvariable
  have hsame : secretMarker.toList ++ x = variableMarker.toList ++ y := hx.trans hy.symm
  simp [secretMarker, variableMarker] at hsame

/-- A rule treats all words without a dash alike. -/
theorem accepts_eq_of_not_dash (rule : CaptureRule) {v w : String}
    (hv : startsWith v "-" = false) (hw : startsWith w "-" = false) :
    rule.accepts v = rule.accepts w := by
  have hv' : startsWith v variableMarker = false := not_marked_of_not_dash "@" hv
  have hw' : startsWith w variableMarker = false := not_marked_of_not_dash "@" hw
  cases rule <;> simp only [CaptureRule.accepts, hv, hw, hv', hw']

/-! ## Grouping around a flag -/

/-- The words of an option. -/
def optionWords (option : String × String) : List String := [option.1, option.2]

/-- Whether an option is a flag to which a rule gives the value after it. -/
structure IsOption (rule : CaptureRule) (option : String × String) : Prop where
  dash : startsWith option.1 "-" = true
  accepts : rule.accepts option.1 = true
  value : startsWith option.2 "-" = false

section Grouping

variable {rule : CaptureRule} {flag : String}

/-- A word with a dash joins nothing. -/
theorem joins_of_dash (hflag : startsWith flag "-" = true) (part : List String) :
    joins rule part flag = false := by
  simp [joins, hflag]

/-- A word with a dash begins a group of its own after an open group. -/
theorem groupFrom_append_dash (hflag : startsWith flag "-" = true) (part before : List String)
    (rest : List String) :
    groupFrom rule part (before ++ flag :: rest) =
      groupFrom rule part before ++ groupFrom rule [flag] rest := by
  induction before generalizing part with
  | nil => simp [groupFrom, joins_of_dash hflag]
  | cons word before ih =>
    rw [List.cons_append, groupFrom, groupFrom]
    split_ifs with hjoins
    · exact ih _
    · rw [ih, List.cons_append]

/-- A word with a dash begins a group of its own. -/
theorem groupWords_append_dash (hflag : startsWith flag "-" = true) (before rest : List String) :
    groupWords rule (before ++ flag :: rest) =
      groupWords rule before ++ groupFrom rule [flag] rest := by
  cases before with
  | nil => rfl
  | cons word before => exact groupFrom_append_dash hflag [word] before rest

/-- A flag that takes a value takes the next word without a dash. -/
theorem groupFrom_value {value : String} (hvalue : startsWith value "-" = false)
    (haccepts : rule.accepts flag = true) (rest : List String) :
    groupFrom rule [flag] (value :: rest) = groupFrom rule [flag, value] rest := by
  rw [groupFrom, if_pos (by simp [joins, hvalue, haccepts])]
  rfl

/-- Options, which are flags with values, are grouped as they stand. -/
theorem groupWords_options {options : List (String × String)}
    (h : ∀ option ∈ options, IsOption rule option) :
    groupWords rule (options.flatMap optionWords) = options.map optionWords := by
  induction options with
  | nil => rfl
  | cons option options ih =>
    obtain ⟨hoption, hrest⟩ := List.forall_mem_cons.mp h
    have hfirst : groupFrom rule [option.1] (option.2 :: options.flatMap optionWords) =
        groupFrom rule [option.1, option.2] (options.flatMap optionWords) :=
      groupFrom_value hoption.value hoption.accepts _
    -- the next flag has a dash, so that it begins a group of its own
    have hnext : groupFrom rule [option.1, option.2] (options.flatMap optionWords) =
        [option.1, option.2] :: groupWords rule (options.flatMap optionWords) := by
      cases options with
      | nil => rfl
      | cons next options =>
        exact groupFrom_append_dash (hrest next List.mem_cons_self).dash
          [option.1, option.2] [] _
    rw [ih hrest] at hnext
    exact hfirst.trans hnext

/-- A flag that takes no value stays alone. -/
theorem groupFrom_no_value (haccepts : rule.accepts flag = false) (value : String)
    (rest : List String) :
    groupFrom rule [flag] (value :: rest) = [flag] :: groupFrom rule [value] rest := by
  rw [groupFrom, if_neg (by simp [joins, haccepts])]

/-- A word that takes no value is a group of its own. -/
theorem groupWords_cons_of_not_accepts {word : String} (h : rule.accepts word = false)
    (rest : List String) : groupWords rule (word :: rest) = [word] :: groupWords rule rest := by
  cases rest with
  | nil => rfl
  | cons next rest => exact groupFrom_no_value h next rest

/-- A flag with its value is a group of its own under a rule that gives one value only. -/
theorem groupWords_cons_value {value : String} (hvalue : startsWith value "-" = false)
    (haccepts : rule.accepts flag = true) (hkeeps : rule.keepsCapturing = false)
    (rest : List String) :
    groupWords rule (flag :: value :: rest) = [flag, value] :: groupWords rule rest := by
  rw [groupWords, groupFrom_value hvalue haccepts]
  cases rest with
  | nil => rfl
  | cons next rest =>
    rw [groupFrom, if_neg (by simp [joins, hkeeps])]
    rfl

/-- What follows the value of a secret flag is shown alike, whatever the value. -/
theorem masked_groupFrom_secret (hflag : startsWith flag secretMarker = true) (v v' : String)
    (more more' rest : List String) :
    (groupFrom rule (flag :: v :: more) rest).map maskedGroup =
      (groupFrom rule (flag :: v' :: more') rest).map maskedGroup := by
  induction rest generalizing more more' with
  | nil => simp only [groupFrom, List.map_cons, List.map_nil, maskedGroup_secret hflag]
  | cons word rest ih =>
    have hjoins : joins rule (flag :: v :: more) word = joins rule (flag :: v' :: more') word :=
      rfl
    rw [groupFrom, groupFrom, hjoins]
    split_ifs
    · exact ih (more ++ [word]) (more' ++ [word])
    · simp only [List.map_cons, maskedGroup_secret hflag]

/-- The groups after a word without a dash are the same for all such words, and so is what the
word's own group holds besides. -/
theorem groupFrom_not_dash (rule : CaptureRule) (rest : List String) :
    ∃ taken groups, ∀ v, startsWith v "-" = false →
      groupFrom rule [v] rest = (v :: taken) :: groups := by
  suffices hopen : ∀ more : List String, ∃ taken groups, ∀ v, startsWith v "-" = false →
      groupFrom rule (v :: more) rest = (v :: taken) :: groups from hopen []
  induction rest with
  | nil => exact fun more => ⟨more, [], fun v _ => rfl⟩
  | cons word rest ih =>
    intro more
    -- whether the next word joins does not depend on the word that it would join
    by_cases hjoins : joins rule ("" :: more) word = true
    · obtain ⟨taken, groups, hgroups⟩ := ih (more ++ [word])
      refine ⟨taken, groups, fun v hv => ?_⟩
      have hsame : joins rule (v :: more) word = joins rule ("" :: more) word := by
        cases more <;> simp only [joins, accepts_eq_of_not_dash rule hv (w := "") (by decide)]
      rw [groupFrom, hsame, if_pos hjoins]
      exact hgroups v hv
    · refine ⟨more, groupFrom rule [word] rest, fun v hv => ?_⟩
      have hsame : joins rule (v :: more) word = joins rule ("" :: more) word := by
        cases more <;> simp only [joins, accepts_eq_of_not_dash rule hv (w := "") (by decide)]
      rw [groupFrom, hsame, if_neg hjoins]

end Grouping

/-! ## Secrets that are shown -/

/-- Texts put together differ where one of them does. -/
theorem exists_intercalate_append_cons (sep : String) (front back : List String) :
    ∃ before after, ∀ v, String.intercalate sep (front ++ v :: back) = before ++ v ++ after := by
  induction front with
  | nil =>
    cases back with
    | nil => exact ⟨"", "", fun v => by simp⟩
    | cons b back =>
      refine ⟨"", sep ++ String.intercalate sep (b :: back), fun v => ?_⟩
      rw [List.nil_append, String.intercalate_cons_cons, String.empty_append, String.append_assoc]
  | cons f front ih =>
    obtain ⟨before, after, h⟩ := ih
    refine ⟨f ++ sep ++ before, after, fun v => ?_⟩
    rw [List.cons_append, String.intercalate_cons_of_ne_nil (by simp), h]
    simp only [String.append_assoc]

/-- Whether a policy gives a flag a value: the flag comes after the words that the policy leaves
out, and the rule lets it take one. -/
def Policy.TakesValue (policy : Policy) (flag : String) (before : List String) : Prop :=
  policy.skip ≤ before.length ∧ policy.rule.accepts flag = true

section Secrets

variable {policies : PolicyTable} {name flag : String} {before : List String}

/-- The groups of a line that is not blank. -/
theorem groupLine_cons (policies : PolicyTable) (name : String) (args : List String) :
    groupLine policies (name :: args) =
      [name] :: (args.take (policies (Keyword.ofWord name)).skip).map (fun word => [word]) ++
        groupWords (policies (Keyword.ofWord name)).rule
          (args.drop (policies (Keyword.ofWord name)).skip) := rfl

/-- A password without a dash is an option of a line that opens a session. -/
theorem isOption_password {value : String} (h : startsWith value "-" = false) :
    IsOption .valueDashButNotMarked ("-#p", value) := by
  constructor
  · show startsWith "-#p" "-" = true
    decide
  · show CaptureRule.accepts .valueDashButNotMarked "-#p" = true
    decide
  · exact h

/-- A port without a dash is an option of a line that opens a session. -/
theorem isOption_port {value : String} (h : startsWith value "-" = false) :
    IsOption .valueDashButNotMarked ("-p", value) := by
  constructor
  · show startsWith "-p" "-" = true
    decide
  · show CaptureRule.accepts .valueDashButNotMarked "-p" = true
    decide
  · exact h

/-- How the words of a line that opens a session are grouped: the address is alone, and the flags
have their values. -/
theorem groupLine_connect (address : String) {options : List (String × String)}
    (hoptions : ∀ option ∈ options, IsOption .valueDashButNotMarked option) :
    groupLine .builtin (["ssh", address] ++ options.flatMap optionWords) =
      ["ssh"] :: [address] :: options.map optionWords := by
  have hkeyword : Keyword.ofWord "ssh" = .connect := by decide +kernel
  have hpolicy : PolicyTable.builtin .connect = ⟨.valueDashButNotMarked, 1⟩ := rfl
  rw [List.cons_append, groupLine_cons, hkeyword, hpolicy, ← groupWords_options hoptions]
  rfl

/-- The groups of a line on which a flag takes the next word as its value. -/
theorem groupLine_value (hflag : startsWith flag "-" = true)
    (htakes : (policies (Keyword.ofWord name)).TakesValue flag before) (after : List String) :
    ∃ front, ∀ v, startsWith v "-" = false →
      groupLine policies (name :: (before ++ flag :: v :: after)) =
        front ++ groupFrom (policies (Keyword.ofWord name)).rule [flag, v] after := by
  obtain ⟨hskip, haccepts⟩ := htakes
  simp only [groupLine_cons]
  generalize policies (Keyword.ofWord name) = policy at hskip haccepts ⊢
  refine ⟨[name] :: (before.take policy.skip).map (fun word => [word]) ++
    groupWords policy.rule (before.drop policy.skip), ?_⟩
  intro v hv
  rw [List.take_append_of_le_length hskip, List.drop_append_of_le_length hskip,
    groupWords_append_dash hflag, groupFrom_value hv haccepts, List.append_assoc]

/-- The groups of a line on which a flag takes no value: the word after it is one of the words left
out of grouping, or begins a group. -/
theorem groupLine_no_value (hflag : startsWith flag "-" = true)
    (htakes : ¬ (policies (Keyword.ofWord name)).TakesValue flag before) (after : List String) :
    ∃ front taken back, ∀ v, startsWith v "-" = false →
      groupLine policies (name :: (before ++ flag :: v :: after)) =
        front ++ (v :: taken) :: back := by
  simp only [groupLine_cons]
  generalize policies (Keyword.ofWord name) = policy at htakes ⊢
  obtain ⟨taken, groups, hgroups⟩ := groupFrom_not_dash policy.rule after
  by_cases hskip : policy.skip ≤ before.length
  · have haccepts : policy.rule.accepts flag = false :=
      Bool.eq_false_iff.mpr fun haccepts => htakes ⟨hskip, haccepts⟩
    refine ⟨[name] :: (before.take policy.skip).map (fun word => [word]) ++
      groupWords policy.rule (before.drop policy.skip) ++ [[flag]], taken, groups, ?_⟩
    intro v hv
    rw [List.take_append_of_le_length hskip, List.drop_append_of_le_length hskip,
      groupWords_append_dash hflag, groupFrom_no_value haccepts, hgroups v hv]
    simp only [List.append_assoc, List.singleton_append]
  · -- the flag itself is left out of grouping, and perhaps words after it
    obtain ⟨k, hk⟩ : ∃ k, policy.skip = (before ++ [flag]).length + k :=
      Nat.exists_eq_add_of_le (by rw [List.length_append, List.length_singleton]; omega)
    have hargs : ∀ v, before ++ flag :: v :: after = (before ++ [flag]) ++ v :: after := by simp
    cases k with
    | zero =>
      refine ⟨[name] :: (before ++ [flag]).map fun word => [word], taken, groups, ?_⟩
      intro v hv
      rw [hargs, hk, List.take_length_add_append, List.drop_length_add_append, List.take_zero,
        List.append_nil, List.drop_zero, groupWords, hgroups v hv]
    | succ m =>
      refine ⟨[name] :: (before ++ [flag]).map fun word => [word], [],
        (after.take m).map (fun word => [word]) ++ groupWords policy.rule (after.drop m), ?_⟩
      intro v hv
      rw [hargs, hk, List.take_length_add_append, List.drop_length_add_append, List.take_succ_cons,
        List.drop_succ_cons, List.map_append, List.map_cons]
      simp only [List.append_assoc, List.cons_append]

/-- **When a secret is hidden.**  Two lines that differ only in the word after a secret flag are
shown alike exactly when the flag takes that word as its value. -/
theorem masked_eq_iff {text text' v v' : String} {after : List String}
    (hflag : startsWith flag secretMarker = true) (hv : startsWith v "-" = false)
    (hv' : startsWith v' "-" = false)
    (hwords : wordsOf text = name :: (before ++ flag :: v :: after))
    (hwords' : wordsOf text' = name :: (before ++ flag :: v' :: after)) :
    (Line.parse policies text).masked = (Line.parse policies text').masked ↔
      v = v' ∨ (policies (Keyword.ofWord name)).TakesValue flag before := by
  rw [masked_parse, masked_parse, hwords, hwords']
  have hdash : startsWith flag "-" = true := dash_of_secret hflag
  by_cases htakes : (policies (Keyword.ofWord name)).TakesValue flag before
  · obtain ⟨front, hgroups⟩ := groupLine_value hdash htakes after
    refine iff_of_true ?_ (.inr htakes)
    rw [hgroups v hv, hgroups v' hv', List.map_append, List.map_append,
      masked_groupFrom_secret hflag v v' [] [] after]
  · obtain ⟨front, taken, back, hgroups⟩ := groupLine_no_value hdash htakes after
    have hshown : ∀ w, startsWith w "-" = false →
        maskedGroup (w :: taken) = String.intercalate " " (w :: taken) := fun w hw =>
      maskedGroup_plain (not_marked_of_not_dash "#" hw) taken
    obtain ⟨x, y, houter⟩ := exists_intercalate_append_cons " " (front.map maskedGroup)
      (back.map maskedGroup)
    obtain ⟨x', y', hinner⟩ := exists_intercalate_append_cons " " [] taken
    rw [hgroups v hv, hgroups v' hv', List.map_append, List.map_append, List.map_cons,
      List.map_cons, houter, houter, hshown v hv, hshown v' hv']
    simp only [List.nil_append] at hinner
    rw [hinner, hinner, String.append_left_inj, String.append_right_inj, String.append_left_inj,
      String.append_right_inj]
    exact ⟨.inl, fun h => h.resolve_right htakes⟩

end Secrets

/-! ## The builtin policies -/

/-- Whether a secret flag takes the next word as its value under the builtin policies, for a
command and the number of arguments before the flag. -/
def hidesSecretAt : Keyword → Nat → Bool
  | .passthrough, _ | .run, _ | .declare, _ | .transfer, _ => true
  | .connect, position => position != 0
  | _, _ => false

/-- Under the builtin policies a secret flag takes a value on lines of the commands that take
flags, except in the place of the address. -/
theorem takesValue_builtin_iff {flag : String} (hflag : startsWith flag secretMarker = true)
    (keyword : Keyword) (before : List String) :
    (PolicyTable.builtin keyword).TakesValue flag before ↔
      hidesSecretAt keyword before.length = true := by
  have hdash : startsWith flag "-" = true := dash_of_secret hflag
  have hvariable : startsWith flag variableMarker = false := not_variable_of_secret hflag
  cases keyword <;>
    simp [Policy.TakesValue, PolicyTable.builtin, Policy.builtin, CaptureRule.accepts,
      hidesSecretAt, hdash, hvariable, Nat.one_le_iff_ne_zero, bne_iff_ne]

/-- **When a secret is hidden under the builtin policies.**  Replacing the word after a secret flag
by another word without a dash leaves the masked line as it is exactly when the line is passed
through, runs files, declares variables or copies a file, or when it opens a session and the flag
does not stand in the place of the address. -/
theorem masked_builtin_eq_iff {text text' name flag v v' : String} {before after : List String}
    (hflag : startsWith flag secretMarker = true) (hv : startsWith v "-" = false)
    (hv' : startsWith v' "-" = false)
    (hwords : wordsOf text = name :: (before ++ flag :: v :: after))
    (hwords' : wordsOf text' = name :: (before ++ flag :: v' :: after)) :
    (Line.parse .builtin text).masked = (Line.parse .builtin text').masked ↔
      v = v' ∨ hidesSecretAt (Keyword.ofWord name) before.length = true := by
  rw [masked_eq_iff hflag hv hv' hwords hwords', takesValue_builtin_iff hflag]

/-- Two passwords on a line that opens a session and names a port. -/
theorem masked_builtin_eq_iff_hunter2 :
    startsWith "-#p" secretMarker = true ∧ startsWith "hunter2" "-" = false ∧
      startsWith "swordfish" "-" = false ∧
      wordsOf "ssh deploy@box -#p hunter2 -p 22" =
        "ssh" :: (["deploy@box"] ++ "-#p" :: "hunter2" :: ["-p", "22"]) ∧
      wordsOf " ssh  deploy@box -#p swordfish -p 22" =
        "ssh" :: (["deploy@box"] ++ "-#p" :: "swordfish" :: ["-p", "22"]) ∧
      (Line.parse .builtin "ssh deploy@box -#p hunter2 -p 22").masked =
        (Line.parse .builtin " ssh  deploy@box -#p swordfish -p 22").masked := by
  have hflag : startsWith "-#p" secretMarker = true := by decide
  have hv : startsWith "hunter2" "-" = false := by decide
  have hv' : startsWith "swordfish" "-" = false := by decide
  have hwords : wordsOf "ssh deploy@box -#p hunter2 -p 22" =
      "ssh" :: (["deploy@box"] ++ "-#p" :: "hunter2" :: ["-p", "22"]) := by decide +kernel
  have hwords' : wordsOf " ssh  deploy@box -#p swordfish -p 22" =
      "ssh" :: (["deploy@box"] ++ "-#p" :: "swordfish" :: ["-p", "22"]) := by decide +kernel
  have hhidden : hidesSecretAt (Keyword.ofWord "ssh") ["deploy@box"].length = true := by
    decide +kernel
  exact ⟨hflag, hv, hv', hwords, hwords',
    (masked_builtin_eq_iff hflag hv hv' hwords hwords').mpr (.inr hhidden)⟩

/-- **A secret can be shown.**  A password that comes before the address is shown, because the
first argument of the command that opens a session takes no value; and on lines of a command whose
words take no values, such as the one that opens a path, every secret is shown. -/
theorem secret_shown_in_place_of_address :
    wordsOf "ssh -#p hunter2 deploy@box" = "ssh" :: ([] ++ "-#p" :: "hunter2" :: ["deploy@box"]) ∧
      startsWith "-#p" secretMarker = true ∧ startsWith "hunter2" "-" = false ∧
      (Line.parse .builtin "ssh -#p hunter2 deploy@box").masked = "ssh -#p hunter2 deploy@box" ∧
      (Line.parse .builtin "ssh -#p swordfish deploy@box").masked ≠
        (Line.parse .builtin "ssh -#p hunter2 deploy@box").masked ∧
      (Line.parse .builtin "open -#p hunter2").masked = "open -#p hunter2" := by
  refine ⟨by decide +kernel, by decide, by decide, by decide +kernel, by decide +kernel,
    by decide +kernel⟩

end ScriptedShell.Command
