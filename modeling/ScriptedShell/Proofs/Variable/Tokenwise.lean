/-
# References are resolved word by word

The words of a line and the runs of its text are found apart from each other, and resolving
references puts the two together.  They always agree: the words of the parts are the words among the
runs, so that each resolved word takes the place of its own and the gaps stay
(`substituteLine_tokenwise`).  What a word is resolved to depends on the word and on its place in
its part only (`referent`).  A word with no parenthesis or brace that opens, and without the
variable marker, refers to nothing, and a line of such words stays as it is (`resolveLine_eq_self`).
-/
import Mathlib
import ScriptedShell.Proofs.Command.Positions
import ScriptedShell.Proofs.Text.Spacing
import ScriptedShell.Proofs.Variable.References

namespace ScriptedShell.Variable

open Text Command

/-! ## Words in the places of words -/

/-- The words among runs put in their own places are the runs put together. -/
theorem replaceWords_self (rs : List Run) :
    replaceWords rs ((rs.filterMap Run.word?).map String.ofList) = joinRuns rs := by
  induction rs with
  | nil => rfl
  | cons r rs ih =>
    cases r with
    | gap t =>
      have hnone : (Run.gap t :: rs).filterMap Run.word? = rs.filterMap Run.word? := rfl
      rw [hnone, replaceWords, ih]
      rfl
    | word t =>
      have hsome : (Run.word t :: rs).filterMap Run.word? = t :: rs.filterMap Run.word? := rfl
      rw [hsome, List.map_cons, replaceWords, ih, String.toList_ofList]
      rfl

/-- Words in the places of as many words stand between the gaps of the runs. -/
theorem replaceWords_eq_spread {rs : List Run} (h : Alternating rs) {ws : List String}
    (hlength : ws.length = (rs.filterMap Run.word?).length) :
    replaceWords rs ws = spread (firstGap rs :: laterGaps rs) (ws.map String.toList) := by
  induction h generalizing ws with
  | nil =>
    obtain rfl := List.length_eq_zero_iff.mp hlength
    rfl
  | @gap t rest hne hblank hrest hnext ih =>
    have hgap : firstGap rest = [] := firstGap_eq_nil hnext
    rw [replaceWords, ih hlength, hgap, firstGap, laterGaps]
    cases ws <;> rfl
  | @word t rest hword hrest hnext ih =>
    obtain ⟨w, ws, rfl⟩ := List.exists_cons_of_length_eq_add_one hlength
    rw [replaceWords, ih (Nat.succ.inj hlength)]
    rfl

/-- The text of a line is its words with gaps between them, and words in the places of as many
words stand between the same gaps. -/
theorem exists_spacing (cs : List Char) :
    ∃ gaps, Spacing gaps (words cs) ∧ cs = spread gaps (words cs) ∧
      ∀ ws : List String, ws.length = (words cs).length →
        replaceWords (runs cs) ws = spread gaps (ws.map String.toList) := by
  have hruns := alternating_runs cs
  refine ⟨_, hruns.spacing, ?_, fun ws hlength => replaceWords_eq_spread hruns hlength⟩
  have hself : replaceWords (runs cs) (((runs cs).filterMap Run.word?).map String.ofList) = _ :=
    replaceWords_eq_spread hruns (by rw [List.length_map])
  rw [replaceWords_self, joinRuns_runs, List.map_map] at hself
  simpa [Function.comp_def, words] using hself

/-! ## What words stand for -/

/-- What a word at a position of a part stands for before the references inside of it are resolved:
the value of the variable whose key it is, if there is one, unless the word is the command or the
key of a keyed part, or the words of the line name variables. -/
def referent (line : Line) (layers : List Store) (part : Command.Part) (position : Nat)
    (word : String) : String :=
  if startsWith word variableMarker ∧ part.index ≠ 0 ∧ ¬(part.key?.isSome ∧ position = 0) ∧
      line.keyword ∉ [.declare, .remove, .require, .unrequire] then
    (lookup word layers).getD word
  else word

section Words

variable {line : Line} {layers : List Store}

/-- The words of a line name variables when it declares, removes, requires or drops some. -/
theorem namesVariables_iff (k : Keyword) :
    k.namesVariables = true ↔ k ∈ [.declare, .remove, .require, .unrequire] := by
  cases k <;> simp [Keyword.namesVariables]

/-- What a word is resolved as is what it stands for. -/
theorem referent_eq (line : Line) (layers : List Store) (part : Command.Part) (position : Nat)
    (word : String) :
    (if (part.index != 0 && !(part.key?.isSome && position == 0)) && !line.keyword.namesVariables
      then resolveKey layers word else word) = referent line layers part position word := by
  have hplace : ((part.index != 0 && !(part.key?.isSome && position == 0)) &&
        !line.keyword.namesVariables) = true ↔
      part.index ≠ 0 ∧ ¬(part.key?.isSome ∧ position = 0) ∧
        line.keyword ∉ [.declare, .remove, .require, .unrequire] := by
    rw [← namesVariables_iff]
    by_cases hkey : part.key?.isSome = true <;> simp [hkey, and_assoc]
  rw [referent, resolveKey]
  by_cases hmarked : startsWith word variableMarker = true
  · simp only [hplace, hmarked, true_and, if_true]
  · rw [if_neg hmarked, ite_self, if_neg fun hkey => hmarked hkey.1]

/-- The resolved words of a line, part by part. -/
theorem substitutedWords_eq_flatMap (line : Line) (layers : List Store) :
    substitutedWords line layers = line.parts.flatMap fun part =>
      part.words.mapIdx fun position word =>
        substituteWord layers (referent line layers part position word) := by
  rw [substitutedWords, List.map_flatMap]
  refine List.flatMap_congr fun part _ => ?_
  refine List.ext_getElem (by simp [keyedWords]) fun position hi hi' => ?_
  simp only [keyedWords, List.getElem_map, List.getElem_mapIdx, referent_eq]

/-- **What the word with a number on a line is resolved to.** -/
theorem getElem?_substitutedWords {i position : Nat} {part : Command.Part} {word : String}
    (h : Occurs line i part position word) :
    (substitutedWords line layers)[i]? =
      some (substituteWord layers (referent line layers part position word)) := by
  obtain ⟨before, after, hline, hword, rfl⟩ := h
  -- as many words are resolved as the parts before hold
  have hbefore : (before.flatMap Part.words).length = (before.flatMap fun p =>
      p.words.mapIdx fun position word =>
        substituteWord layers (referent line layers p position word)).length := by
    simp only [List.length_flatMap, List.length_mapIdx]
  rw [substitutedWords_eq_flatMap, hline, hbefore]
  refine getElem?_flatMap_append_cons ?_ before after
  rw [List.getElem?_mapIdx, hword, Option.map_some]

/-- As many words are resolved as there are. -/
theorem length_substitutedWords (line : Line) (layers : List Store) :
    (substitutedWords line layers).length = (line.parts.flatMap Part.words).length := by
  simp only [substitutedWords_eq_flatMap, List.length_flatMap, List.length_mapIdx]

/-- Words each of which is resolved to itself are left as they are. -/
theorem substitutedWords_eq_self
    (h : ∀ i part position word, Occurs line i part position word →
      substituteWord layers (referent line layers part position word) = word) :
    substitutedWords line layers = line.parts.flatMap Part.words := by
  refine List.ext_getElem (length_substitutedWords line layers) fun i hi hi' => ?_
  obtain ⟨part, position, word, hoccurs⟩ := exists_occurs hi'
  have hresolved : (substitutedWords line layers)[i]? = some word := by
    rw [getElem?_substitutedWords hoccurs, h i part position word hoccurs]
  refine Option.some.inj ?_
  rw [← List.getElem?_eq_getElem hi, ← List.getElem?_eq_getElem hi', hresolved, hoccurs.getElem?]

end Words

/-! ## Whole lines -/

section Lines

variable (policies : PolicyTable) (text : String)

/-- The words of the parts of a line are the words among the runs of its text. -/
theorem toList_words_parse :
    ((Line.parse policies text).parts.flatMap Part.words).map String.toList =
      words (Line.parse policies text).raw.toList := by
  have hraw : wordsOf text = wordsOf (Line.parse policies text).raw := (wordsOf_trimmed text).symm
  rw [words_parse, hraw, wordsOf, List.map_map]
  simp [Function.comp_def]

/-- **The gaps of a line stay** when its references are resolved. -/
theorem exists_spacing_parse (layers : List Store) :
    ∃ gaps,
      Spacing gaps (((Line.parse policies text).parts.flatMap Part.words).map String.toList) ∧
      (Line.parse policies text).raw.toList =
        spread gaps (((Line.parse policies text).parts.flatMap Part.words).map String.toList) ∧
      (substituteLine (.parse policies text) layers).toList =
        spread gaps ((substitutedWords (.parse policies text) layers).map String.toList) := by
  obtain ⟨gaps, hspacing, hraw, hreplaced⟩ :=
    exists_spacing (Line.parse policies text).raw.toList
  rw [← toList_words_parse] at hspacing hraw hreplaced
  refine ⟨gaps, hspacing, hraw, ?_⟩
  rw [substituteLine, String.toList_ofList]
  exact hreplaced _ (by rw [length_substitutedWords, List.length_map])

/-- A line each of whose words is resolved to itself is left as it is. -/
theorem substituteLine_eq_raw {layers : List Store}
    (h : ∀ i part position word, Occurs (.parse policies text) i part position word →
      substituteWord layers (referent (.parse policies text) layers part position word) = word) :
    substituteLine (.parse policies text) layers = (Line.parse policies text).raw := by
  obtain ⟨gaps, -, hraw, hresolved⟩ := exists_spacing_parse policies text layers
  rw [← String.toList_inj, hraw, hresolved, substitutedWords_eq_self h]

/-- **Resolving references is word by word and keeps the gaps.**  The text of a line is its words
with gaps between them, one that is not empty between any two.  Resolving references leaves the gaps
as they are, and puts in the place of each word what its referent becomes when the references inside
of it are resolved.  A line on which no word stands for a variable that is known, or refers to one,
stays as it is. -/
theorem substituteLine_tokenwise (layers : List Store) :
    let line := Line.parse policies text
    let tokens := line.parts.flatMap Part.words
    (∃ (gaps : List (List Char)) (outs : List String),
      Spacing gaps (tokens.map String.toList) ∧
      line.raw.toList = spread gaps (tokens.map String.toList) ∧
      (substituteLine line layers).toList = spread gaps (outs.map String.toList) ∧
      outs.length = tokens.length ∧
      (∀ i < tokens.length, ∃ part position word, Occurs line i part position word) ∧
      ∀ i part position word, Occurs line i part position word →
        tokens[i]? = some word ∧
        outs[i]? = some (substituteWord layers (referent line layers part position word))) ∧
    ((∀ i part position word, Occurs line i part position word →
        referent line layers part position word = word ∧
          ∀ name, RefersTo word name → lookup name layers = none) →
      substituteLine line layers = line.raw) := by
  intro line tokens
  obtain ⟨gaps, hspacing, hraw, hresolved⟩ := exists_spacing_parse policies text layers
  refine ⟨⟨gaps, _, hspacing, hraw, hresolved, length_substitutedWords line layers,
    fun i hi => exists_occurs hi, fun i part position word hoccurs => ?_⟩, ?_⟩
  · exact ⟨hoccurs.getElem?, getElem?_substitutedWords hoccurs⟩
  · refine fun h => substituteLine_eq_raw policies text fun i part position word hoccurs => ?_
    obtain ⟨hsame, hunknown⟩ := h i part position word hoccurs
    rw [hsame, substituteWord_unresolved hunknown]

end Lines

/-- Of two keys of variables on a line the first one stands for its value, and the second one, which
takes a value itself, does not; a line in which nothing is known stays as it is, with its gaps. -/
theorem substituteLine_tokenwise_ping :
    let layers : List Store := [⟨[("-@host", "10.0.0.1"), ("-@n", "3")]⟩]
    let text := " ping  -@host\t-c -@n \x7bhost\x7d/x "
    let line := Line.parse .builtin text
    Occurs line 1 ⟨1, ["-@host"]⟩ 0 "-@host" ∧ Occurs line 3 ⟨3, ["-@n", "\x7bhost\x7d/x"]⟩ 0 "-@n" ∧
      (∃ (gaps : List (List Char)) (outs : List String),
        Spacing gaps (["ping", "-@host", "-c", "-@n", "\x7bhost\x7d/x"].map String.toList) ∧
        (substituteLine line layers).toList = spread gaps (outs.map String.toList) ∧
        outs[1]? = some "10.0.0.1" ∧ outs[3]? = some "-@n") ∧
      substituteLine line [] = "ping  -@host\t-c -@n \x7bhost\x7d/x" := by
  intro layers text line
  have hhost : Occurs line 1 ⟨1, ["-@host"]⟩ 0 "-@host" :=
    ⟨line.parts.take 1, line.parts.drop 2, by decide +kernel, by decide +kernel, by decide +kernel⟩
  have hn : Occurs line 3 ⟨3, ["-@n", "\x7bhost\x7d/x"]⟩ 0 "-@n" :=
    ⟨line.parts.take 3, line.parts.drop 4, by decide +kernel, by decide +kernel, by decide +kernel⟩
  have htokens : line.parts.flatMap Part.words = ["ping", "-@host", "-c", "-@n", "\x7bhost\x7d/x"] := by
    decide +kernel
  obtain ⟨⟨gaps, outs, hspacing, -, hresolved, -, -, houts⟩, -⟩ :=
    substituteLine_tokenwise .builtin text layers
  rw [show (Line.parse .builtin text).parts = line.parts from rfl, htokens] at hspacing
  refine ⟨hhost, hn, ⟨gaps, outs, hspacing, hresolved, ?_, ?_⟩, ?_⟩
  · rw [(houts 1 _ _ _ hhost).2]
    decide +kernel
  · rw [(houts 3 _ _ _ hn).2]
    decide +kernel
  · have hraw : line.raw = "ping  -@host\t-c -@n \x7bhost\x7d/x" := by decide +kernel
    rw [← hraw]
    refine (substituteLine_tokenwise .builtin text []).2 fun i part position word _ => ⟨?_, ?_⟩
    · rw [referent, lookup, List.findSome?_nil, Option.getD_none, ite_self]
    · exact fun name _ => rfl

/-! ## Lines without references -/

/-- Whether a word can hold no reference and is the key of no variable. -/
def RefersToNothing (word : String) : Prop :=
  '\x7b' ∉ word.toList ∧ '(' ∉ word.toList ∧ startsWith word variableMarker = false

instance (word : String) : Decidable (RefersToNothing word) :=
  inferInstanceAs (Decidable (_ ∧ _ ∧ _))

/-- A word without the variable marker stands for itself. -/
theorem referent_eq_self {word : String} (hword : startsWith word variableMarker = false)
    (line : Line) (layers : List Store) (part : Command.Part) (position : Nat) :
    referent line layers part position word = word := by
  rw [referent, if_neg]
  rintro ⟨hmarked, -⟩
  rw [hword] at hmarked
  exact Bool.false_ne_true hmarked

/-- The word with a number on a line is one of the words of its text. -/
theorem mem_wordsOf_of_occurs {policies : PolicyTable} {text word : String} {i position : Nat}
    {part : Command.Part} (h : Occurs (.parse policies text) i part position word) :
    word ∈ wordsOf text := by
  rw [← words_parse policies text]
  exact List.mem_of_getElem? h.getElem?

/-- **A line without references.**  A line all of whose words refer to nothing stays as it is when
its references are resolved. -/
theorem resolveLine_eq_self (policies : PolicyTable) {text : String}
    (h : ∀ word ∈ wordsOf text, RefersToNothing word) (layers : List Store) :
    resolveLine policies (.parse policies text) layers = .parse policies text := by
  have hsame : substituteLine (.parse policies text) layers = (Line.parse policies text).raw := by
    refine substituteLine_eq_raw policies text fun i part position word hoccurs => ?_
    obtain ⟨hbrace, hcall, hmarker⟩ := h word (mem_wordsOf_of_occurs hoccurs)
    rw [referent_eq_self hmarker, substituteWord_eq_self hbrace hcall]
  rw [resolveLine]
  exact if_pos hsame

end ScriptedShell.Variable
