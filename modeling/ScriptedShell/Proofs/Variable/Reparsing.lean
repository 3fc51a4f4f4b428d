/-
# Where words stand, and lines that are read again

A span is a range of the bytes that a text is stored as.  A text is read at a span when both ends of
the span are between characters, and what is read is what stands there (`Span.read?_eq_some_iff`).
The spans of the words of a text are found in one pass over its characters, which counts bytes and
remembers where the open word has begun (`wordSpans`).  When the text is words with gaps between
them, it finds the places that these words have, counted gap by gap and word by word
(`wordSpans_of_spacing`).  So each word is read at its span (`map_read?_wordSpans`), and a text that
is put together anew from what is read between the spans, with other texts in the place of the words,
is these texts between the same gaps (`splice?_wordSpans`).

The words of the parts of a line come from cutting its text at blanks, and the places where resolved
words are put come from counting its bytes.  The two agree: the words of the parts are read at the
spans of the text (`words_read_at_spans`), and putting the resolved words there is resolving the
references of the line (`splice?_substitutedWords`).  The text of a line is trimmed, and reading it
again gives the same line (`parse_raw`).  So a line that stays as it is when its references are
resolved need not be read again, and a line with its references resolved is always the line that is
read in the resolved text (`resolveLine_eq_parse`).
-/
import Mathlib
import ScriptedShell.Proofs.Variable.Tokenwise

namespace ScriptedShell.Text

open String (utf8Len)

/-! ## Reading at a span -/

/-- A range of the bytes of a text. -/
structure Span where
  start : Nat
  stop : Nat
  deriving Repr, DecidableEq

/-- The text at a span, if the ends of the span are in order and both of them between characters. -/
def Span.read? (s : String) (span : Span) : Option String :=
  if h : String.Pos.Raw.IsValid s ⟨span.start⟩ ∧ String.Pos.Raw.IsValid s ⟨span.stop⟩ ∧
      span.start ≤ span.stop then
    some (s.slice (s.pos ⟨span.start⟩ h.1) (s.pos ⟨span.stop⟩ h.2.1) h.2.2).copy
  else none

/-- **A text is read at a span exactly when it stands there**: the span begins after the bytes that
are before the text and ends after those of the text. -/
theorem Span.read?_eq_some_iff {s text : String} {span : Span} :
    span.read? s = some text ↔ ∃ front back : String, s = front ++ (text ++ back) ∧
      span = ⟨front.utf8ByteSize, front.utf8ByteSize + text.utf8ByteSize⟩ := by
  rw [Span.read?]
  constructor
  · intro h
    obtain ⟨hends, htext⟩ := Option.dite_none_right_eq_some.mp h
    obtain ⟨front, back, hstart, hstop⟩ :=
      String.copy_slice_eq_iff_splits.mp ⟨hends.2.2, Option.some.inj htext⟩
    have hfirst : span.start = front.utf8ByteSize :=
      congrArg String.Pos.Raw.byteIdx hstart.offset_eq_rawEndPos
    have hlast : span.stop = (front ++ text).utf8ByteSize :=
      congrArg String.Pos.Raw.byteIdx hstop.offset_eq_rawEndPos
    exact ⟨front, back, hstart.eq_append, by rw [← String.utf8ByteSize_append, ← hfirst, ← hlast]⟩
  · rintro ⟨front, back, rfl, rfl⟩
    have hassoc : front ++ (text ++ back) = front ++ text ++ back := String.append_assoc.symm
    have hend : (⟨front.utf8ByteSize + text.utf8ByteSize⟩ : String.Pos.Raw) =
      (front ++ text).rawEndPos := String.Pos.Raw.ext String.utf8ByteSize_append.symm
    have hstart : String.Pos.Raw.IsValid (front ++ (text ++ back)) ⟨front.utf8ByteSize⟩ :=
      String.Pos.Raw.isValid_iff_exists_append.mpr ⟨front, text ++ back, rfl, rfl⟩
    have hstop : String.Pos.Raw.IsValid (front ++ (text ++ back))
        ⟨front.utf8ByteSize + text.utf8ByteSize⟩ :=
      String.Pos.Raw.isValid_iff_exists_append.mpr ⟨front ++ text, back, hassoc, hend⟩
    have hbefore : (String.pos _ _ hstart).Splits front (text ++ back) := ⟨rfl, rfl⟩
    have hbehind : (String.pos _ _ hstop).Splits (front ++ text) back := ⟨hassoc, hend⟩
    obtain ⟨hle, hcopy⟩ := String.copy_slice_eq_iff_splits.mpr ⟨front, back, hbefore, hbehind⟩
    rw [dif_pos ⟨hstart, hstop, hle⟩]
    exact congrArg some hcopy

/-- What stands between two stretches of characters is read at its place. -/
theorem Span.read?_of_toList {s : String} {front middle back : List Char}
    (hs : s.toList = front ++ (middle ++ back)) :
    Span.read? s ⟨utf8Len front, utf8Len front + utf8Len middle⟩ =
      some (String.ofList middle) := by
  refine Span.read?_eq_some_iff.mpr ⟨String.ofList front, String.ofList back, ?_, ?_⟩
  · rw [← String.toList_inj, hs, String.toList_append, String.toList_append, String.toList_ofList,
      String.toList_ofList, String.toList_ofList]
  · rw [String.utf8ByteSize_ofList, String.utf8ByteSize_ofList]

/-! ## The spans of words -/

/-- The spans of the words in the rest of a text: the offset of the rest, where the open word has
begun if one is open, and the characters of the rest. -/
def spansFrom (offset : Nat) : Option Nat → List Char → List Span
  | none, [] => []
  | some start, [] => [⟨start, offset⟩]
  | none, c :: cs =>
    if isBlank c then spansFrom (offset + c.utf8Size) none cs
    else spansFrom (offset + c.utf8Size) (some offset) cs
  | some start, c :: cs =>
    if isBlank c then ⟨start, offset⟩ :: spansFrom (offset + c.utf8Size) none cs
    else spansFrom (offset + c.utf8Size) (some start) cs

/-- The spans of the words of a text, in order. -/
def wordSpans (s : String) : List Span := spansFrom 0 none s.toList

/-- Blanks where no word is open are passed over. -/
theorem spansFrom_blanks {gap : List Char} (hgap : ∀ c ∈ gap, isBlank c = true) (offset : Nat)
    (rest : List Char) :
    spansFrom offset none (gap ++ rest) = spansFrom (offset + utf8Len gap) none rest := by
  induction gap generalizing offset with
  | nil => rfl
  | cons c gap ih =>
    have hrest := ih (fun d hd => hgap d (List.mem_cons_of_mem c hd)) (offset + c.utf8Size)
    rw [List.cons_append, spansFrom, if_pos (hgap c List.mem_cons_self), hrest,
      String.utf8Len_cons, Nat.add_assoc, Nat.add_comm c.utf8Size]

/-- Other characters leave an open word open. -/
theorem spansFrom_letters {letters : List Char} (hletters : ∀ c ∈ letters, isBlank c = false)
    (offset start : Nat) (rest : List Char) :
    spansFrom offset (some start) (letters ++ rest) =
      spansFrom (offset + utf8Len letters) (some start) rest := by
  induction letters generalizing offset with
  | nil => rfl
  | cons c letters ih =>
    have hrest := ih (fun d hd => hletters d (List.mem_cons_of_mem c hd)) (offset + c.utf8Size)
    have hc : ¬isBlank c = true := by simp [hletters c List.mem_cons_self]
    rw [List.cons_append, spansFrom, if_neg hc, hrest, String.utf8Len_cons, Nat.add_assoc,
      Nat.add_comm c.utf8Size]

/-- A word is open from its first character on. -/
theorem spansFrom_word {word : List Char} (hword : IsWord word) (offset : Nat) (rest : List Char) :
    spansFrom offset none (word ++ rest) =
      spansFrom (offset + utf8Len word) (some offset) rest := by
  obtain ⟨hne, hletters⟩ := hword
  obtain ⟨c, letters, rfl⟩ := List.exists_cons_of_ne_nil hne
  have hc : ¬isBlank c = true := by simp [hletters c List.mem_cons_self]
  rw [List.cons_append, spansFrom, if_neg hc,
    spansFrom_letters fun d hd => hletters d (List.mem_cons_of_mem c hd), String.utf8Len_cons,
    Nat.add_assoc, Nat.add_comm c.utf8Size]

/-- An open word ends where the text ends or goes on with a blank. -/
theorem spansFrom_end {cs : List Char} (hcs : ∀ c ∈ cs.head?, isBlank c = true)
    (offset start : Nat) :
    spansFrom offset (some start) cs = ⟨start, offset⟩ :: spansFrom offset none cs := by
  cases cs with
  | nil => rfl
  | cons c cs => rw [spansFrom, spansFrom, if_pos (hcs c rfl), if_pos (hcs c rfl)]

/-! ## The places of spaced words -/

/-- The places of words between gaps, the first gap beginning at an offset. -/
def spansAmong (offset : Nat) : List (List Char) → List (List Char) → List Span
  | gap :: gaps, word :: ws =>
    ⟨offset + utf8Len gap, offset + utf8Len gap + utf8Len word⟩ ::
      spansAmong (offset + utf8Len gap + utf8Len word) gaps ws
  | _, _ => []

section Spaced

variable {s : String} {gaps ws : List (List Char)} {front : List Char}

/-- What comes after a word begins with a blank, if with anything. -/
theorem Spacing.blank_head (h : Spacing gaps ws) (hgap : ws ≠ [] → gaps.head? ≠ some []) :
    ∀ c ∈ (spread gaps ws).head?, isBlank c = true := by
  intro c hc
  cases h with
  | last hblank =>
    rw [spread_last] at hc
    exact hblank c (List.mem_of_mem_head? hc)
  | @cons gap word next gaps ws hblank =>
    have hne : gap ≠ [] := by simpa using hgap (List.cons_ne_nil word ws)
    rw [spread_cons, List.head?_append_of_ne_nil gap hne] at hc
    exact hblank c (List.mem_of_mem_head? hc)

/-- One pass over spaced words finds the places of the words. -/
theorem spansFrom_spread (h : Spacing gaps ws) (offset : Nat) :
    spansFrom offset none (spread gaps ws) = spansAmong offset gaps ws := by
  induction h generalizing offset with
  | @last gap hgap =>
    have hnone := spansFrom_blanks hgap offset []
    rw [List.append_nil] at hnone
    rw [spread_last, hnone]
    rfl
  | @cons gap word next gaps ws hgap hword hnext h ih =>
    -- the word ends with its last character: a blank comes behind it, or nothing
    have hblank := h.blank_head (by simpa using hnext)
    rw [spread_cons, spansFrom_blanks hgap, spansFrom_word hword, spansFrom_end hblank, ih]
    rfl

/-- **The spans of the words of a text** are the places of the words between its gaps. -/
theorem wordSpans_of_spacing (h : Spacing gaps ws) (hs : s.toList = spread gaps ws) :
    wordSpans s = spansAmong 0 gaps ws := by
  rw [wordSpans, hs, spansFrom_spread h]

/-- Behind any beginning of a text, spaced words are read at their places. -/
theorem map_read?_spansAmong (h : Spacing gaps ws) (hs : s.toList = front ++ spread gaps ws) :
    (spansAmong (utf8Len front) gaps ws).map (Span.read? s) =
      ws.map fun word => some (String.ofList word) := by
  induction h generalizing front with
  | last => rfl
  | @cons gap word next gaps ws hgap hword hnext h ih =>
    rw [spread_cons, ← List.append_assoc] at hs
    have hread := Span.read?_of_toList hs
    -- the words behind are read after a beginning that is longer by the gap and the word
    rw [← List.append_assoc] at hs
    have hlater := ih hs
    rw [String.utf8Len_append] at hread hlater
    rw [String.utf8Len_append] at hlater
    rw [spansAmong, List.map_cons, hread, hlater, List.map_cons]

/-- **The words of a text are read at their spans**, in order. -/
theorem map_read?_wordSpans (h : Spacing gaps ws) (hs : s.toList = spread gaps ws) :
    (wordSpans s).map (Span.read? s) = ws.map fun word => some (String.ofList word) := by
  have hfront : s.toList = [] ++ spread gaps ws := hs
  rw [wordSpans_of_spacing h hs]
  exact map_read?_spansAmong h hfront

/-- Blanks and characters of several bytes count with all their bytes. -/
example : wordSpans "né\u3000\u00a0λx" = [⟨0, 3⟩, ⟨8, 11⟩] := by decide +kernel

/-! ## Texts in the place of spans -/

/-- The rest of a text, from an offset on, with texts in the place of spans, if what is before,
between and behind the spans can be read. -/
def splice? (s : String) (offset : Nat) : List (Span × String) → Option String
  | [] => Span.read? s ⟨offset, s.utf8ByteSize⟩
  | (span, text) :: rest => do
    let gap ← Span.read? s ⟨offset, span.start⟩
    let later ← splice? s span.stop rest
    return gap ++ text ++ later

/-- Behind any beginning of a text, texts in the place of spaced words stand between the gaps. -/
theorem splice?_spansAmong (h : Spacing gaps ws) (hs : s.toList = front ++ spread gaps ws)
    {texts : List String} (hlength : texts.length = ws.length) :
    splice? s (utf8Len front) ((spansAmong (utf8Len front) gaps ws).zip texts) =
      some (String.ofList (spread gaps (texts.map String.toList))) := by
  induction h generalizing front texts with
  | @last gap hgap =>
    obtain rfl := List.length_eq_zero_iff.mp hlength
    have hsize : s.utf8ByteSize = utf8Len front + utf8Len gap := by
      rw [← String.utf8Len_toList, hs, spread_last, String.utf8Len_append]
    have hread := Span.read?_of_toList (hs.trans (by rw [spread_last, List.append_nil]))
    rw [List.zip_nil_right, splice?, hsize, hread, List.map_nil, spread_last]
  | @cons gap word next gaps ws hgap hword hnext h ih =>
    obtain ⟨text, texts, rfl⟩ := List.exists_cons_of_length_eq_add_one hlength
    rw [spread_cons] at hs
    have hread := Span.read?_of_toList hs
    rw [← List.append_assoc, ← List.append_assoc] at hs
    have hlater := ih hs (Nat.succ.inj hlength)
    rw [String.utf8Len_append, String.utf8Len_append] at hlater
    rw [spansAmong, List.zip_cons_cons, splice?, hread, hlater, List.map_cons, spread_cons]
    simp [String.ofList_append, String.append_assoc]

/-- **Texts in the place of the words of a text** stand between its gaps. -/
theorem splice?_wordSpans (h : Spacing gaps ws) (hs : s.toList = spread gaps ws)
    {texts : List String} (hlength : texts.length = ws.length) :
    splice? s 0 ((wordSpans s).zip texts) =
      some (String.ofList (spread gaps (texts.map String.toList))) := by
  have hfront : s.toList = [] ++ spread gaps ws := hs
  rw [wordSpans_of_spacing h hs]
  exact splice?_spansAmong h hfront hlength

end Spaced

end ScriptedShell.Text

namespace ScriptedShell.Variable

open Text Command

section Lines

variable (policies : PolicyTable) (text : String) (layers : List Store)

/-! ## Reading again -/

/-- **Reading the text of a line again** gives the same line. -/
theorem parse_raw :
    Line.parse policies (Line.parse policies text).raw = Line.parse policies text := by
  have hraw : (Line.parse policies text).raw = trimmed text := rfl
  rw [hraw, Line.parse, trimmed_trimmed, Line.parse]

/-- **A line with its references resolved** is the line that is read in the resolved text. -/
theorem resolveLine_eq_parse :
    resolveLine policies (.parse policies text) layers =
      .parse policies (substituteLine (.parse policies text) layers) := by
  by_cases hsame : substituteLine (.parse policies text) layers = (Line.parse policies text).raw
  · -- the line is not read again, and reading its own text would give the same line
    rw [resolveLine, if_pos hsame, hsame, parse_raw]
  · rw [resolveLine, if_neg hsame]

/-! ## Words and spans -/

/-- **The words of the parts of a line are read at the spans of its text**, in order. -/
theorem words_read_at_spans :
    (wordSpans (Line.parse policies text).raw).map (Span.read? (Line.parse policies text).raw) =
      ((Line.parse policies text).parts.flatMap Part.words).map some := by
  obtain ⟨gaps, hspacing, hraw, -⟩ := exists_spacing_parse policies text []
  rw [map_read?_wordSpans hspacing hraw, List.map_map]
  simp [Function.comp_def]

/-- **Resolved words in the place of the spans of a line** make the text of the line with its
references resolved. -/
theorem splice?_substitutedWords :
    splice? (Line.parse policies text).raw 0
        ((wordSpans (Line.parse policies text).raw).zip
          (substitutedWords (.parse policies text) layers)) =
      some (substituteLine (.parse policies text) layers) := by
  obtain ⟨gaps, hspacing, hraw, hresolved⟩ := exists_spacing_parse policies text layers
  have hlength : (substitutedWords (.parse policies text) layers).length =
      (((Line.parse policies text).parts.flatMap Part.words).map String.toList).length := by
    rw [length_substitutedWords, List.length_map]
  rw [splice?_wordSpans hspacing hraw hlength, ← hresolved, String.ofList_toList]

/-- **Not reading a line again agrees with reading it again.**  The text of a line is read again as a
line with the same text, parts and keyword, which is a comment when the line is one and declares the
same variables.  So a line with its references resolved is always the line that is read in the
resolved text, whether this has changed or not.  Moreover what is read at the spans of the words of
its text, which are counted in bytes, is the words of its parts in order, and putting the resolved
words in the place of the spans makes the resolved text. -/
theorem line_read_again :
    let line := Line.parse policies text
    let again := Line.parse policies line.raw
    (again.raw = line.raw ∧ again.parts = line.parts ∧ again.keyword = line.keyword ∧
      again.isComment = line.isComment ∧ again.store = line.store) ∧
    resolveLine policies line layers = .parse policies (substituteLine line layers) ∧
    (wordSpans line.raw).map (Span.read? line.raw) =
      (line.parts.flatMap Part.words).map some ∧
    splice? line.raw 0 ((wordSpans line.raw).zip (substitutedWords line layers)) =
      some (substituteLine line layers) := by
  intro line again
  have hagain : again = line := parse_raw policies text
  refine ⟨?_, resolveLine_eq_parse policies text layers, words_read_at_spans policies text,
    splice?_substitutedWords policies text layers⟩
  rw [hagain]
  exact ⟨rfl, rfl, rfl, rfl, rfl⟩

end Lines

end ScriptedShell.Variable
