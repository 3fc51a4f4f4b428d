/-
# What the screen shows

In fixed-row mode a session draws whole rows: the prompt at the anchor, output from the row below
it on, and blanks over what an earlier command has left.  Read as writes to rows, the last one
counting (`shownAt`), a trace tells what is on the screen.  Right after every prompt that is the
prompt, the output of the latest command below it, and blanks (`Screened`), whatever is sent and
however deliveries come in (`run_screened`).

Between prompts the rows are told apart by two counters.  `Drawn` says what they mean: output goes
on below the lines that are there, and below the last row there are only blanks.
-/
import Mathlib
import ScriptedShell.Proofs.Remote.Lifecycle

namespace ScriptedShell.Remote

open Inbox Text Terminal

/-! ## Reading the screen off a trace -/

/-- What a row shows after a trace: what was written to it last. -/
def shownAt (acts : List Activity) (row : Nat) : Option String :=
  ((shownEntries acts).filterMap (Entry.rowText? row)).getLast?

/-- The output lines known after one more activity; a line that is sent begins anew. -/
def extendOutput (known : List String) : Activity → List String
  | .sending _ => []
  | .heard line .output => known ++ [line]
  | _ => known

/-- The output lines of a trace since a line was sent, or since its beginning. -/
def commandOutput (acts : List Activity) : List String := acts.foldl extendOutput []

/-- Whether an activity writes a row. -/
def writesRow : Activity → Bool
  | .shown (.row ..) => true
  | _ => false

/-- Whether an entry is a row. -/
def isRow : Entry → Bool
  | .row .. => true
  | _ => false

/-- The notice of a failure of the stream. -/
def notice? : Activity → Option Entry
  | .broke cause => some (.line cause.message)
  | _ => none

/-- Whether the rows down to the largest one are enough for the output of every command. -/
def RowsSuffice (anchor : Nat) (acts : List Activity) : Prop :=
  ∀ front ∈ acts.inits, anchor + (commandOutput front).length < maxRow

instance (anchor : Nat) (acts : List Activity) : Decidable (RowsSuffice anchor acts) :=
  inferInstanceAs (Decidable (∀ front ∈ acts.inits, _))

/-- Whether a trace leaves on the screen a prompt at the anchor, the lines of output below it, and
blanks in every other row below that was ever written. -/
structure ShowsAnswer (anchor width : Nat) (acts : List Activity) (prompt : String) : Prop where
  prompt : shownAt acts anchor = some (fitToWidth prompt width)
  line : ∀ i line, (commandOutput acts)[i]? = some line →
    shownAt acts (anchor + i + 1) = some (fitToWidth line width)
  blank : ∀ row text, anchor + (commandOutput acts).length < row → shownAt acts row = some text →
    ∀ c ∈ text.toList, c = ' '

/-- **What fixed-row mode does to the screen**, from the beginning of the mode on. -/
structure Screened (anchor width : Nat) (acts : List Activity) : Prop where
  /-- Right after every prompt has been drawn, the screen shows it and the output. -/
  prompts : ∀ front line rest, acts = front ++ .heard line .prompt :: rest →
    ShowsAnswer anchor width (front ++ .heard line .prompt :: rest.takeWhile writesRow) line
  /-- No row above the anchor is written, and every row is written over its whole width. -/
  rows : ∀ row text, .shown (.row row text) ∈ acts → anchor ≤ row ∧ text.toList.length = width
  /-- Nothing but rows is written, besides notices of failures. -/
  plain : (shownEntries acts).filter (fun e => !isRow e) = acts.filterMap notice?

/-! ## Writes to rows -/

/-- The later writes to a row count. -/
theorem shownAt_append (acts more : List Activity) (row : Nat) :
    shownAt (acts ++ more) row = (shownAt more row).or (shownAt acts row) := by
  rw [shownAt, shownEntries_append, List.filterMap_append, List.getLast?_append, shownAt, shownAt]

/-- Activities that write no row leave the rows as they are. -/
theorem shownAt_of_no_row {more : List Activity} (h : ∀ a ∈ more, writesRow a = false) (row : Nat) :
    shownAt more row = none := by
  have hnone : (shownEntries more).filterMap (Entry.rowText? row) = [] := by
    rw [List.filterMap_eq_nil_iff]
    intro entry hentry
    obtain ⟨a, ha, hshown⟩ := List.mem_filterMap.mp hentry
    have hrow := h a ha
    cases a with
    | shown e =>
      cases e with
      | row r text => cases hrow
      | line text => cases hshown; rfl
      | text text => cases hshown; rfl
      | clear => cases hshown; rfl
    | _ => cases hshown
  rw [shownAt, hnone, List.getLast?_nil]

/-- A row that is drawn shows what is drawn, and no other row does. -/
theorem shownAt_drawRow (width drawn : Nat) (text : String) (row : Nat) :
    shownAt [drawRow width drawn text] row =
      if drawn = row then some (fitToWidth text width) else none := by
  by_cases h : drawn = row
  · simp [shownAt, shownEntries, drawRow, Activity.entry?, Entry.rowText?, h]
  · simp [shownAt, shownEntries, drawRow, Activity.entry?, Entry.rowText?, h]

/-- Of rows that are drawn with the same text each shows it. -/
theorem shownAt_map_drawRow (width : Nat) (text : String) (drawn : List Nat) (row : Nat) :
    shownAt (drawn.map fun r => drawRow width r text) row =
      if row ∈ drawn then some (fitToWidth text width) else none := by
  induction drawn with
  | nil => rfl
  | cons r drawn ih =>
    rw [List.map_cons, ← List.singleton_append, shownAt_append, ih, shownAt_drawRow]
    by_cases hlater : row ∈ drawn
    · simp [hlater]
    · by_cases hfirst : r = row
      · subst hfirst
        simp [hlater]
      · simp [hlater, hfirst, Ne.symm hfirst]

/-- A row above the largest one has the next one below it. -/
theorem rowBelow_of_lt {row : Nat} (h : row < maxRow) : rowBelow row = row + 1 :=
  Nat.min_eq_left h

/-- What is fitted to a width has that width. -/
theorem length_fitToWidth (text : String) (width : Nat) :
    (fitToWidth text width).toList.length = width := by
  rw [fitToWidth, String.toList_ofList, length_fitChars]

/-- Nothing fitted to a width is blank. -/
theorem eq_space_of_mem_fitToWidth {width : Nat} {c : Char}
    (h : c ∈ (fitToWidth "" width).toList) : c = ' ' := by
  simp [fitToWidth, fitChars] at h
  exact h.2

/-- What a prompt draws are rows: the anchor, and rows from the next one on. -/
theorem exists_of_mem_promptRows {r : Redraw} {width : Nat} {text : String} {a : Activity}
    (h : a ∈ Redraw.promptRows r width text) :
    ∃ row line, a = drawRow width row line ∧ (row = r.anchor ∨ r.nextRow ≤ row) := by
  rcases List.mem_cons.mp h with rfl | h
  · exact ⟨r.anchor, text, rfl, .inl rfl⟩
  · obtain ⟨row, hrow, rfl⟩ := List.mem_map.mp h
    exact ⟨row, "", rfl, .inr (List.mem_range'_1.mp hrow).1⟩

/-- Where only rows are drawn, nothing else is written and there is nothing to give notice of. -/
theorem plain_of_rows {width : Nat} {acts : List Activity}
    (h : ∀ a ∈ acts, ∃ row line, a = drawRow width row line) :
    (shownEntries acts).filter (fun e => !isRow e) = acts.filterMap notice? := by
  induction acts with
  | nil => rfl
  | cons a acts ih =>
    obtain ⟨row, line, rfl⟩ := h a List.mem_cons_self
    exact ih fun b hb => h b (List.mem_cons_of_mem _ hb)

/-- What a prompt leaves in a row. -/
theorem shownAt_promptRows (r : Redraw) (width : Nat) (text : String) (row : Nat)
    (hnext : r.nextRow ≤ r.lastRow + 1) :
    shownAt (Redraw.promptRows r width text) row =
      if r.nextRow ≤ row ∧ row ≤ r.lastRow then some (fitToWidth "" width)
      else if r.anchor = row then some (fitToWidth text width) else none := by
  have hmem : row ∈ List.range' r.nextRow (r.lastRow + 1 - r.nextRow) ↔
      r.nextRow ≤ row ∧ row ≤ r.lastRow := by
    rw [List.mem_range'_1]
    omega
  rw [Redraw.promptRows, ← List.singleton_append, shownAt_append, shownAt_map_drawRow,
    shownAt_drawRow]
  by_cases hstale : r.nextRow ≤ row ∧ row ≤ r.lastRow
  · rw [if_pos (hmem.mpr hstale), if_pos hstale, Option.some_or]
  · rw [if_neg (mt hmem.mp hstale), if_neg hstale, Option.none_or]

/-! ## Traces that go on -/

variable {anchor width : Nat} {acts more : List Activity}

theorem commandOutput_append (acts more : List Activity) :
    commandOutput (acts ++ more) = more.foldl extendOutput (commandOutput acts) :=
  List.foldl_append

/-- Activities that add nothing to the output leave it as it is. -/
theorem foldl_extendOutput (h : ∀ a ∈ more, ∀ known, extendOutput known a = known)
    (known : List String) : more.foldl extendOutput known = known := by
  induction more with
  | nil => rfl
  | cons a more ih =>
    rw [List.foldl_cons, h a List.mem_cons_self]
    exact ih fun b hb => h b (List.mem_cons_of_mem a hb)

/-- The rows are enough for the front of a trace when they are enough for all of it. -/
theorem RowsSuffice.front (h : RowsSuffice anchor (acts ++ more)) : RowsSuffice anchor acts :=
  fun front hfront => h front
    ((List.mem_inits _ _).mpr (((List.mem_inits _ _).mp hfront).trans (List.prefix_append acts more)))

/-- The rows are enough for the output at the end of a trace. -/
theorem RowsSuffice.last (h : RowsSuffice anchor acts) :
    anchor + (commandOutput acts).length < maxRow :=
  h acts ((List.mem_inits _ _).mpr List.prefix_rfl)

/-- What stands in the rows that follow a place stays when something else follows them. -/
theorem takeWhile_writesRow_append {rest : List Activity} {a : Activity} (ha : writesRow a = false)
    (more : List Activity) :
    (rest ++ a :: more).takeWhile writesRow = rest.takeWhile writesRow := by
  induction rest with
  | nil => simp [ha]
  | cons b rest ih =>
    rw [List.cons_append, List.takeWhile_cons, List.takeWhile_cons, ih]

/-- A prompt and what it draws add nothing to the output. -/
theorem commandOutput_prompt (acts : List Activity) (r : Redraw) (width : Nat) (text : String) :
    commandOutput (acts ++ .heard text .prompt :: Redraw.promptRows r width text) =
      commandOutput acts := by
  rw [commandOutput_append, List.foldl_cons]
  refine foldl_extendOutput (fun a ha known => ?_) _
  obtain ⟨row, line, rfl, -⟩ := exists_of_mem_promptRows ha
  rfl

/-- No other prompt is heard in what a prompt draws, and all of that is rows. -/
theorem takeWhile_writesRow_prompt {r : Redraw} {text line : String} {front rest : List Activity}
    (heq : .heard text .prompt :: Redraw.promptRows r width text =
      front ++ .heard line .prompt :: rest) :
    front = [] ∧ line = text ∧ rest.takeWhile writesRow = Redraw.promptRows r width text := by
  cases front with
  | nil =>
    obtain ⟨heard, rfl⟩ := List.cons.inj heq
    cases heard
    refine ⟨rfl, rfl, List.takeWhile_eq_self_iff.mpr fun a ha => ?_⟩
    obtain ⟨row, shown, rfl, -⟩ := exists_of_mem_promptRows ha
    rfl
  | cons a front =>
    obtain ⟨rfl, hrest⟩ := List.cons.inj heq
    have hmem : .heard line .prompt ∈ Redraw.promptRows r width text := by rw [hrest]; simp
    obtain ⟨row, shown, hdrawn, -⟩ := exists_of_mem_promptRows hmem
    cases hdrawn

/-- The screen stays as it should be when something is done that is no row, and that shows the
answer when it is a prompt. -/
theorem Screened.append (h : Screened anchor width acts) {a : Activity} (ha : writesRow a = false)
    (hprompts : ∀ front line rest, a :: more = front ++ .heard line .prompt :: rest →
      ShowsAnswer anchor width (acts ++ (front ++ .heard line .prompt :: rest.takeWhile writesRow))
        line)
    (hrows : ∀ row text, .shown (.row row text) ∈ a :: more →
      anchor ≤ row ∧ text.toList.length = width)
    (hplain : (shownEntries (a :: more)).filter (fun e => !isRow e) = (a :: more).filterMap notice?) :
    Screened anchor width (acts ++ a :: more) where
  prompts front line rest heq := by
    rcases List.append_eq_append_iff.mp heq with ⟨front', rfl, hfront⟩ | ⟨rest', rfl, hrest⟩
    · have hshows := hprompts front' line rest hfront
      rwa [List.append_assoc]
    · -- the prompt was there before, or it is the first thing done now
      cases rest' with
      | nil =>
        have hshows := hprompts [] line rest hrest.symm
        rwa [List.append_nil] at hshows
      | cons b rest' =>
        obtain ⟨rfl, rfl⟩ := List.cons.inj hrest
        have hshows := h.prompts front line rest' rfl
        rwa [List.append_eq, takeWhile_writesRow_append ha]
  rows row text hmem := by
    rcases List.mem_append.mp hmem with hmem | hmem
    · exact h.rows row text hmem
    · exact hrows row text hmem
  plain := by
    rw [shownEntries_append, List.filter_append, List.filterMap_append, h.plain, hplain]

/-! ## Between prompts -/

/-- **What the rows hold between prompts**: the lines of output stand below the anchor, the next one
goes right below them, and below the last row that may hold output there are only blanks. -/
structure Drawn (anchor width : Nat) (acts : List Activity) (r : Redraw) : Prop
    extends Screened anchor width acts where
  active : r.active = true
  anchor_eq : r.anchor = anchor
  nextRow_eq : r.nextRow = anchor + (commandOutput acts).length + 1
  nextRow_le : r.nextRow ≤ r.lastRow + 1
  line : ∀ i line, (commandOutput acts)[i]? = some line →
    shownAt acts (anchor + i + 1) = some (fitToWidth line width)
  blank : ∀ row text, r.lastRow < row → shownAt acts row = some text →
    ∀ c ∈ text.toList, c = ' '

namespace Drawn

variable {r : Redraw}

/-- In fixed-row mode nothing is drawn at first. -/
theorem fixedRows (h : anchor < maxRow) : Drawn anchor width [] (Session.fixedRows anchor) where
  prompts front line rest heq := by simp at heq
  rows row text hmem := by simp at hmem
  plain := rfl
  active := rfl
  anchor_eq := rfl
  nextRow_eq := by
    simp only [Session.fixedRows, rowBelow, commandOutput, List.foldl_nil, List.length_nil]
    omega
  nextRow_le := by
    simp only [Session.fixedRows, rowBelow]
    omega
  line i line hline := by simp [commandOutput] at hline
  blank row text _ hrow := by simp [shownAt, shownEntries] at hrow

/-- Whether an activity neither writes a row nor has to do with output. -/
def isAside : Activity → Bool
  | .shown (.row ..) | .sending _ | .heard _ .output | .heard _ .prompt => false
  | _ => true

theorem writesRow_of_isAside {a : Activity} (h : isAside a = true) : writesRow a = false := by
  unfold writesRow
  split
  · cases h
  · rfl

/-- What is done aside adds nothing to the output. -/
theorem extendOutput_of_isAside {a : Activity} (h : isAside a = true) (known : List String) :
    extendOutput known a = known := by
  unfold extendOutput
  split
  · cases h
  · cases h
  · rfl

/-- What is done aside changes nothing in the rows. -/
theorem aside (h : Drawn anchor width acts r) {a : Activity}
    (haside : ∀ b ∈ a :: more, isAside b = true)
    (hplain : (shownEntries (a :: more)).filter (fun e => !isRow e) = (a :: more).filterMap notice?) :
    Drawn anchor width (acts ++ a :: more) r := by
  have hrow : ∀ b ∈ a :: more, writesRow b = false :=
    fun b hb => writesRow_of_isAside (haside b hb)
  have houtput : commandOutput (acts ++ a :: more) = commandOutput acts := by
    rw [commandOutput_append,
      foldl_extendOutput fun b hb known => extendOutput_of_isAside (haside b hb) known]
  have hshown (row : Nat) : shownAt (acts ++ a :: more) row = shownAt acts row := by
    rw [shownAt_append, shownAt_of_no_row hrow, Option.none_or]
  constructor
  · refine h.toScreened.append (hrow a List.mem_cons_self) ?_ ?_ hplain
    · intro front line rest heq
      have hprompt := haside (.heard line .prompt) (by rw [heq]; simp)
      cases hprompt
    · intro row text hmem
      have hrow' := hrow _ hmem
      cases hrow'
  · exact h.active
  · exact h.anchor_eq
  · rw [houtput, h.nextRow_eq]
  · exact h.nextRow_le
  · intro i line hline
    rw [houtput] at hline
    rw [hshown, h.line i line hline]
  · intro row text hlast hrow
    rw [hshown] at hrow
    exact h.blank row text hlast hrow

/-- The line below the anchor is the next one when a line is sent. -/
theorem sending (h : Drawn anchor width acts r) (text : String) (hrows : anchor < maxRow) :
    Drawn anchor width (acts ++ [.sending text]) { r with nextRow := rowBelow r.anchor } := by
  have houtput : commandOutput (acts ++ [.sending text]) = [] := by
    rw [commandOutput_append]
    rfl
  have hshown (row : Nat) : shownAt (acts ++ [.sending text]) row = shownAt acts row := by
    rw [shownAt_append, shownAt_of_no_row (by simp [writesRow]), Option.none_or]
  have hbelow : rowBelow r.anchor = anchor + 1 := by rw [h.anchor_eq, rowBelow_of_lt hrows]
  have hnext := h.nextRow_eq
  have hle := h.nextRow_le
  constructor
  · refine h.toScreened.append rfl ?_ ?_ rfl
    · intro front line rest heq
      cases front <;> simp at heq
    · intro row text hmem
      simp at hmem
  · exact h.active
  · exact h.anchor_eq
  · rw [houtput, List.length_nil]
    exact hbelow
  · have hlast : anchor + 1 ≤ r.lastRow + 1 := by omega
    exact hbelow.trans_le hlast
  · intro i line hline
    simp [houtput] at hline
  · intro row text hlast hrow
    rw [hshown] at hrow
    exact h.blank row text hlast hrow

/-- A line of output is drawn below those that are there. -/
theorem output (h : Drawn anchor width acts r) (text : String)
    (hrows : anchor + (commandOutput acts).length + 1 < maxRow) :
    Drawn anchor width (acts ++ [.heard text .output, drawRow width r.nextRow text])
      (Redraw.afterOutput r) := by
  have houtput : commandOutput (acts ++ [.heard text .output, drawRow width r.nextRow text]) =
      commandOutput acts ++ [text] := by
    rw [commandOutput_append]
    rfl
  have hshown (row : Nat) :
      shownAt (acts ++ [.heard text .output, drawRow width r.nextRow text]) row =
        if r.nextRow = row then some (fitToWidth text width) else shownAt acts row := by
    have hdrawn : shownAt [.heard text .output, drawRow width r.nextRow text] row =
        shownAt [drawRow width r.nextRow text] row := rfl
    rw [shownAt_append, hdrawn, shownAt_drawRow]
    split_ifs <;> rfl
  have hnext := h.nextRow_eq
  have hbelow : rowBelow r.nextRow = r.nextRow + 1 := rowBelow_of_lt (by omega)
  have hle := h.nextRow_le
  constructor
  · refine h.toScreened.append rfl ?_ ?_ rfl
    · intro front line rest heq
      have hmem : Activity.heard line .prompt ∈
          [Activity.heard text .output, drawRow width r.nextRow text] := by rw [heq]; simp
      simp [drawRow] at hmem
    · intro row shown hmem
      simp only [drawRow, List.mem_cons, Activity.shown.injEq, Entry.row.injEq, reduceCtorEq,
        List.not_mem_nil, or_false, false_or] at hmem
      obtain ⟨rfl, rfl⟩ := hmem
      exact ⟨by omega, length_fitToWidth text width⟩
  · exact h.active
  · exact h.anchor_eq
  · rw [houtput, List.length_append, List.length_singleton]
    exact hbelow.trans (by omega)
  · exact hbelow.trans_le (Nat.succ_le_succ (le_max_right _ _))
  · intro i line hline
    rw [houtput, List.getElem?_append] at hline
    rw [hshown]
    split_ifs at hline with hi
    · -- a line that was there before is above the new one
      rw [if_neg (by omega)]
      exact h.line i line hline
    · have hzero : i - (commandOutput acts).length = 0 := by
        by_contra hpos
        rw [List.getElem?_eq_none (by simp; omega)] at hline
        cases hline
      rw [hzero] at hline
      cases hline
      rw [if_pos (by omega)]
  · intro row shown hlast hrow
    simp only [Redraw.afterOutput] at hlast
    rw [hshown, if_neg (by omega)] at hrow
    exact h.blank row shown (by omega) hrow

section Prompt

variable (h : Drawn anchor width acts r) (text : String)
include h

/-- What a row shows after a prompt: blanks where something may have been left, the prompt at the
anchor, and what it showed before elsewhere. -/
theorem shownAt_prompt (row : Nat) :
    shownAt (acts ++ .heard text .prompt :: Redraw.promptRows r width text) row =
      if r.nextRow ≤ row ∧ row ≤ r.lastRow then some (fitToWidth "" width)
      else if anchor = row then some (fitToWidth text width) else shownAt acts row := by
  have hrows : shownAt (.heard text .prompt :: Redraw.promptRows r width text) row =
      shownAt (Redraw.promptRows r width text) row := rfl
  rw [shownAt_append, hrows, shownAt_promptRows r width text row h.nextRow_le, h.anchor_eq]
  split_ifs <;> rfl

/-- After a prompt the output is on the screen. -/
theorem line_prompt {i : Nat} {line : String} (hi : (commandOutput acts)[i]? = some line) :
    shownAt (acts ++ .heard text .prompt :: Redraw.promptRows r width text) (anchor + i + 1) =
      some (fitToWidth line width) := by
  have hlt : i < (commandOutput acts).length := (List.getElem?_eq_some_iff.mp hi).1
  have hnext := h.nextRow_eq
  rw [h.shownAt_prompt, if_neg (by omega), if_neg (by omega)]
  exact h.line i line hi

/-- After a prompt the rows below the output are blank: they were already blank, or they are drawn
over. -/
theorem blank_prompt {row : Nat} {shown : String}
    (hbelow : anchor + (commandOutput acts).length < row)
    (hrow : shownAt (acts ++ .heard text .prompt :: Redraw.promptRows r width text) row =
      some shown) : ∀ c ∈ shown.toList, c = ' ' := by
  have hnext := h.nextRow_eq
  rw [h.shownAt_prompt] at hrow
  by_cases hstale : row ≤ r.lastRow
  · rw [if_pos (by omega)] at hrow
    cases hrow
    exact fun c hc => eq_space_of_mem_fitToWidth hc
  · rw [if_neg (by omega), if_neg (by omega)] at hrow
    exact h.blank row shown (by omega) hrow

/-- After a prompt the screen shows it and the output. -/
theorem showsAnswer :
    ShowsAnswer anchor width (acts ++ .heard text .prompt :: Redraw.promptRows r width text)
      text where
  prompt := by
    have hnext := h.nextRow_eq
    rw [h.shownAt_prompt, if_neg (by omega), if_pos rfl]
  line i line hi := by
    rw [commandOutput_prompt] at hi
    exact h.line_prompt text hi
  blank row shown hbelow hrow := by
    rw [commandOutput_prompt] at hbelow
    exact h.blank_prompt text hbelow hrow

/-- A prompt is drawn at the anchor, and blanks over the rows below the output. -/
theorem prompt :
    Drawn anchor width (acts ++ .heard text .prompt :: Redraw.promptRows r width text)
      (Redraw.afterPrompt r) := by
  have hnext := h.nextRow_eq
  have hanchor := h.anchor_eq
  constructor
  · refine h.toScreened.append rfl ?_ ?_ ?_
    · intro front line rest heq
      obtain ⟨rfl, rfl, hrows⟩ := takeWhile_writesRow_prompt heq
      rw [hrows]
      exact h.showsAnswer line
    · intro row shown hmem
      rcases List.mem_cons.mp hmem with heq | hmem
      · cases heq
      · obtain ⟨drawn, line, heq, hrow⟩ := exists_of_mem_promptRows hmem
        cases heq
        exact ⟨by omega, length_fitToWidth line width⟩
    · have hdraws : ∀ a ∈ Redraw.promptRows r width text,
          ∃ row line, a = drawRow width row line := by
        intro a ha
        obtain ⟨row, line, heq, -⟩ := exists_of_mem_promptRows ha
        exact ⟨row, line, heq⟩
      -- the prompt itself is only heard, and nothing is shown of that
      have hplain := plain_of_rows hdraws
      exact hplain
  · exact h.active
  · exact h.anchor_eq
  · rw [commandOutput_prompt]
    exact hnext
  · have hlast : r.nextRow ≤ r.nextRow - 1 + 1 := by omega
    exact hlast.trans (Nat.succ_le_succ (le_max_left _ _))
  · intro i line hi
    rw [commandOutput_prompt] at hi
    exact h.line_prompt text hi
  · intro row shown hlast hrow
    have hlast' : max (r.nextRow - 1) r.anchor < row := hlast
    exact h.blank_prompt text (by omega) hrow

end Prompt

end Drawn

/-! ## Deliveries -/

/-- While deliveries come in, the rows keep their meaning as long as they are enough. -/
theorem Inbox.Arrives.drawn {b b' : Inbox} {past : List Activity} (h : Arrives width b acts b')
    (hrows : RowsSuffice anchor (past ++ acts)) (hdrawn : Drawn anchor width past b.redraw) :
    Drawn anchor width (past ++ acts) b'.redraw := by
  induction h generalizing past with
  | done b => rwa [List.append_nil]
  | hold bytes _ ih => exact ih hrows hdrawn
  | @line b b' acts text _ _ ih =>
    rw [← List.cons_append, ← List.append_assoc] at hrows ⊢
    refine ih hrows ?_
    have hfront := hrows.front
    have hactive := hdrawn.active
    cases hkind : b.classify text with
    | echo => exact hdrawn.aside (by simp [Drawn.isAside, display]) rfl
    | cue => exact hdrawn.aside (by simp [Drawn.isAside, display]) rfl
    | prompt =>
      have hprompt := hdrawn.prompt text
      rw [display, afterLine, afterPrompt]
      dsimp only
      rwa [if_pos hactive, if_pos hactive]
    | output =>
      have houtput : anchor + (commandOutput past).length + 1 < maxRow := by
        have hlast := hfront.last
        rw [hkind, commandOutput_append, display, if_pos hactive] at hlast
        simp only [List.foldl_cons, List.foldl_nil, extendOutput, drawRow, List.length_append,
          List.length_singleton] at hlast
        omega
      rw [display, afterLine, afterOutput]
      dsimp only
      rw [if_pos hactive, if_pos hactive]
      exact hdrawn.output text houtput
  | broke cause _ ih =>
    have hnext : Drawn anchor width (past ++ [.broke cause, .shown (.line cause.message)]) _ :=
      hdrawn.aside (by simp [Drawn.isAside]) rfl
    rw [List.append_cons, List.append_cons, List.append_assoc past] at hrows ⊢
    exact ih hrows hnext
  | @call b b' acts a ha _ ih =>
    have hnext : Drawn anchor width (past ++ [a]) b.redraw := by
      rcases ha with ⟨c, rfl | rfl | rfl⟩
      · exact hdrawn.aside (by simp [Drawn.isAside]) rfl
      · exact hdrawn.aside (by simp [Drawn.isAside]) rfl
      · exact hdrawn.aside (by simp [Drawn.isAside]) rfl
    rw [List.append_cons] at hrows ⊢
    exact ih hrows hnext

namespace Session

variable {σ : Type} {s t u : Session σ}

/-- Whether a session comes to another one in such a way that the rows keep their meaning, as long
as they are enough. -/
def Draws (anchor width : Nat) (s t : Session σ) : Prop :=
  ∃ acts, t.trace = s.trace ++ acts ∧ ∀ past, RowsSuffice anchor (past ++ acts) →
    Drawn anchor width past s.inbox.redraw → Drawn anchor width (past ++ acts) t.inbox.redraw

namespace Draws

/-- What keeps the rows and what keeps them after it keep them together. -/
theorem trans (h : Draws anchor width s t) (h' : Draws anchor width t u) :
    Draws anchor width s u := by
  obtain ⟨x, htrace, hx⟩ := h
  obtain ⟨y, htrace', hy⟩ := h'
  refine ⟨x ++ y, by rw [htrace', htrace, List.append_assoc], fun past hrows hdrawn => ?_⟩
  rw [← List.append_assoc] at hrows ⊢
  exact hy (past ++ x) hrows (hx past hrows.front hdrawn)

/-- Deliveries keep the rows. -/
theorem of_delivers (h : Delivers width s acts t) : Draws anchor width s t :=
  ⟨acts, h.trace_eq, fun _ hrows hdrawn => h.arrives.drawn hrows hdrawn⟩

/-- What has to do neither with the rows nor with the trace keeps them. -/
theorem within (s : Session σ) {t : Session σ} (htrace : t.trace = s.trace)
    (hredraw : t.inbox.redraw = s.inbox.redraw) : Draws anchor width s t :=
  ⟨[], by rw [htrace, List.append_nil], fun past _ hdrawn => by rwa [hredraw, List.append_nil]⟩

/-- Writing keeps the rows. -/
theorem wrote (s : Session σ) (connection : Nat) (text : String) :
    Draws anchor width s (s.note [.wrote connection text]) :=
  ⟨_, rfl, fun _ _ hdrawn => hdrawn.aside (by simp [Drawn.isAside]) rfl⟩

/-- A line that is about to be sent keeps the rows. -/
theorem begun (s : Session σ) (setup : Setup) (text : String) :
    Draws anchor width s (s.begun setup text) := by
  refine ⟨_, rfl, fun past hrows hdrawn => hdrawn.sending text ?_⟩
  have hlast := hrows.last
  omega

end Draws

/-- The rows are kept along a send. -/
theorem along_draws (setup : Setup) : Along setup (@Draws σ anchor setup.width) where
  refl s := .within s rfl rfl
  trans := .trans
  delivers := .of_delivers
  begun s text := .begun s setup text
  wrote s connection text := .wrote s connection text
  giveUpCue s := .within s rfl rfl
  lower s := .within s rfl rfl
  collect s := .within s rfl rfl

/-! ## Runs in fixed-row mode -/

/-- Whether a step leaves fixed-row mode as it is: a send, a delivery, or time that passes. -/
def KeepsMode : Step σ → Prop
  | .send _ | .deliver _ | .elapse _ => True
  | .connect _ | .enterRedraw _ | .exitRedraw | .disconnect => False

/-- A step that leaves fixed-row mode as it is keeps the rows. -/
theorem draws_step (host : Host σ) (setup : Setup) (s : Session σ) {step : Step σ}
    (h : KeepsMode step) : Draws anchor setup.width s (s.step host setup step) := by
  cases step with
  | send text => exact along_send host setup (along_draws setup) s text
  | deliver d =>
    obtain ⟨acts, hd⟩ := delivers_deliver setup.width s d
    exact .of_delivers hd
  | elapse world => exact .within s rfl rfl
  | connect endpoint => cases h
  | enterRedraw row => cases h
  | exitRedraw => cases h
  | disconnect => cases h

/-- Steps that leave fixed-row mode as it is keep the rows. -/
theorem draws_run (host : Host σ) (setup : Setup) (s : Session σ) {steps : List (Step σ)}
    (h : ∀ step ∈ steps, KeepsMode step) : Draws anchor setup.width s (s.run host setup steps) := by
  induction steps generalizing s with
  | nil => exact .within s rfl rfl
  | cons step steps ih =>
    have hrest : ∀ later ∈ steps, KeepsMode later :=
      fun later hlater => h later (List.mem_cons_of_mem step hlater)
    exact (draws_step host setup s (h step List.mem_cons_self)).trans
      (ih (s.step host setup step) hrest)

/-- **What the screen shows in fixed-row mode.**  Whatever is sent and however deliveries come in
from the beginning of the mode on, the screen shows every prompt at the anchor, the output of the
latest command that was sent below it, and nothing else, as long as there are rows enough. -/
theorem run_screened (host : Host σ) (setup : Setup) (s t : Session σ) (row : Option Nat)
    (henter : s.enterRedraw host setup row = (none, t)) (steps : List (Step σ))
    (hsteps : ∀ step ∈ steps, KeepsMode step) :
    ∃ acts, (t.run host setup steps).trace = t.trace ++ acts ∧
      (RowsSuffice (max (row.getD setup.anchorRow) 1) acts →
        Screened (max (row.getD setup.anchorRow) 1) setup.width acts) := by
  have hredraw : t.inbox.redraw = fixedRows (max (row.getD setup.anchorRow) 1) := by
    rw [enterRedraw] at henter
    split_ifs at henter
    · rw [← (Prod.mk.inj henter).2]
    · cases henter
  have hrun : Draws (max (row.getD setup.anchorRow) 1) setup.width t (t.run host setup steps) :=
    draws_run host setup t hsteps
  obtain ⟨acts, htrace, hacts⟩ := hrun
  refine ⟨acts, htrace, fun hrows => ?_⟩
  have hanchor : max (row.getD setup.anchorRow) 1 < maxRow := by
    have hlast := hrows.last
    omega
  have hbegun : Drawn (max (row.getD setup.anchorRow) 1) setup.width [] t.inbox.redraw := by
    rw [hredraw]
    exact .fixedRows hanchor
  exact (hacts [] hrows hbegun).toScreened

/-- A scripted session in fixed-row mode at the third row; the second of its commands has less output
than the first. -/
def fixedAtThird : Session HostScript :=
  ((connectedTo
    [{ line := "ls", play := HostScript.playText ["ls\r\na\r\nb\r\ndeploy@box:~$ "] },
      { line := "pwd", play := HostScript.playText ["pwd\r\n/srv\r\ndeploy@box:~$ "] }]).enterRedraw
    scripted scriptedSetup (some 3)).2

/-- Two commands are sent in fixed-row mode, and the screen ends up with the output of the second. -/
theorem run_screened_fixedAtThird :
    let s := connectedTo
      [{ line := "ls", play := HostScript.playText ["ls\r\na\r\nb\r\ndeploy@box:~$ "] },
        { line := "pwd", play := HostScript.playText ["pwd\r\n/srv\r\ndeploy@box:~$ "] }]
    let steps : List (Step HostScript) := [.send "ls", .send "pwd"]
    s.enterRedraw scripted scriptedSetup (some 3) = (none, fixedAtThird) ∧
      (∀ step ∈ steps, KeepsMode step) ∧
      ∃ acts, (fixedAtThird.run scripted scriptedSetup steps).trace = fixedAtThird.trace ++ acts ∧
        Screened 3 scriptedSetup.width acts ∧ commandOutput acts = ["/srv"] ∧
        shownAt acts 4 = some (fitToWidth "/srv" scriptedSetup.width) ∧
        shownAt acts 5 = some (fitToWidth "" scriptedSetup.width) := by
  intro s steps
  have henter : s.enterRedraw scripted scriptedSetup (some 3) = (none, fixedAtThird) :=
    Prod.ext (by decide +kernel) rfl
  have hsteps : ∀ step ∈ steps, KeepsMode step := by simp [steps, KeepsMode]
  obtain ⟨acts, htrace, hscreened⟩ :=
    run_screened scripted scriptedSetup s fixedAtThird (some 3) henter steps hsteps
  have hacts : acts = (fixedAtThird.run scripted scriptedSetup steps).trace.drop
      fixedAtThird.trace.length := by
    rw [htrace, List.drop_left]
  have hrows : RowsSuffice 3 acts := by
    rw [hacts]
    decide +kernel
  refine ⟨henter, hsteps, acts, htrace, hscreened hrows, ?_, ?_, ?_⟩ <;>
    rw [hacts] <;> decide +kernel

/-- **A send that is refused begins nothing.**  The stream has failed after a line of output, and a
line is to be sent; of the output that follows, the first line stands below the one that was there
before, although it is the first since the send. -/
theorem refused_send_keeps_rows :
    let before := fixedAtThird.run scripted scriptedSetup
      [.deliver ⟨0, .data "a\r\n".toUTF8.toList⟩, .deliver ⟨0, .broken (.streamClosed "reset")⟩]
    let s := before.send scripted scriptedSetup "ls"
    let after := s.2.deliver scriptedSetup.width ⟨0, .data "b\r\ndeploy@box:~$ ".toUTF8.toList⟩
    let acts := after.trace.drop fixedAtThird.trace.length
    (s.1 matches .failed (.streamClosed _)) = true ∧
      after.trace.drop s.2.trace.length = [.heard "b" .output,
        drawRow scriptedSetup.width 5 "b", .heard "deploy@box:~$" .prompt,
        drawRow scriptedSetup.width 3 "deploy@box:~$"] ∧
      shownAt acts 4 = some (fitToWidth "a" scriptedSetup.width) ∧
      shownAt acts 5 = some (fitToWidth "b" scriptedSetup.width) := by
  decide +kernel

end Session

end ScriptedShell.Remote
