/-
# Chunks

A stream of bytes arrives in chunks, and the inbox looks at what it has after each of them.  It
must not matter where the stream was cut.  What an inbox comes to know from a stream is defined
without chunks (`outcome`), from the lines that are ended and the one that is not.  After any
chunks the inbox is there (`Stands`): each chunk goes on from it (`Stands.takeIn`), so all chunks
do (`Stands.receiveAll`), and two ways to cut one stream come to the same.
-/
import Mathlib
import ScriptedShell.Proofs.Remote.Arrival
import ScriptedShell.Proofs.Remote.Reading

namespace ScriptedShell.Remote.Inbox

open Text Terminal

/-! ## Going on -/

/-- What comes of handling more where something was handled before. -/
def andThen (r : Inbox × List Activity) (f : Inbox → Inbox × List Activity) :
    Inbox × List Activity :=
  ((f r.1).1, r.2 ++ (f r.1).2)

/-- The same with other bytes kept back. -/
def keeping (kept : List UInt8) (r : Inbox × List Activity) : Inbox × List Activity :=
  ({ r.1 with pending := kept }, r.2)

theorem andThen_assoc (r : Inbox × List Activity) (f g : Inbox → Inbox × List Activity) :
    andThen (andThen r f) g = andThen r fun b => andThen (f b) g := by
  simp only [andThen, List.append_assoc]

theorem keeping_andThen (kept : List UInt8) (r : Inbox × List Activity)
    (f : Inbox → Inbox × List Activity) :
    keeping kept (andThen r f) = andThen r fun b => keeping kept (f b) := rfl

@[simp] theorem andThen_nothing (r : Inbox × List Activity) :
    andThen r (fun b => (b, [])) = r := by
  rw [andThen, List.append_nil]

section Lines

variable {width : Nat}

/-- Handling lines goes on with the lines that follow. -/
theorem handleLines_append (b : Inbox) (front rest : List (List Char)) :
    b.handleLines width (front ++ rest) =
      andThen (b.handleLines width front) fun b => b.handleLines width rest := by
  induction front generalizing b with
  | nil => rfl
  | cons text front ih =>
    simp only [List.cons_append, handleLines, ih, andThen, List.append_assoc]

/-- Handling one line only. -/
theorem handleLines_singleton (b : Inbox) (text : List Char) :
    b.handleLines width [text] = b.handleLine width text := by
  simp only [handleLines, List.append_nil]

/-- A line counts for what is left of it when it is trimmed. -/
theorem handleLine_congr {text text' : List Char} (h : trim text = trim text') (b : Inbox) :
    b.handleLine width text = b.handleLine width text' := by
  rw [handleLine, handleLine, h]

/-- A blank line is nothing. -/
theorem handleLine_of_blank {text : List Char} (h : trim text = []) (b : Inbox) :
    b.handleLine width text = (b, []) := by
  rw [handleLine, h]
  rfl

/-- Bytes that are kept back make no difference to handling a line. -/
theorem handleLine_keeping (b : Inbox) (kept : List UInt8) (text : List Char) :
    { b with pending := kept }.handleLine width text = keeping kept (b.handleLine width text) := by
  rw [handleLine, handleLine]
  dsimp only
  split_ifs
  · rfl
  · have hkind : classify { b with pending := kept } (String.ofList (trim text)) =
        b.classify (String.ofList (trim text)) := rfl
    rw [hkind]
    cases b.classify (String.ofList (trim text)) <;> rfl

/-- Bytes that are kept back make no difference to handling lines. -/
theorem handleLines_keeping (b : Inbox) (kept : List UInt8) (texts : List (List Char)) :
    { b with pending := kept }.handleLines width texts =
      keeping kept (b.handleLines width texts) := by
  induction texts generalizing b with
  | nil => rfl
  | cons text texts ih =>
    rw [handleLines, handleLine_keeping, handleLines]
    simp only [keeping, ih]

end Lines

/-! ## The line that is not ended -/

/-- Whether a line reads as a finished prompt or as a request for the password. -/
def readsFinished (b : Inbox) (line : String) : Bool :=
  isPasswordCue line b.passwordCue ||
    (endsLikePrompt line && isPromptLine line b.user b.superuser)

/-- Whether what stands after the last break is finished. -/
def isFinishedTail (b : Inbox) (tail : List UInt8) : Bool :=
  b.isFinished (String.ofList (trim (readText tail)))

/-- A blank line is not finished. -/
theorem isFinishedTail_of_blank {tail : List UInt8} (h : trim (readText tail) = []) (b : Inbox) :
    b.isFinishedTail tail = false := by
  rw [isFinishedTail, h, isFinished]
  simp [isPasswordCue, endsLikePrompt, trim, trimEnd, dropEndWhile]

/-- A finished line reads as one, with whatever deliveries came before it. -/
theorem readsFinished_of_isFinishedTail {width : Nat} {b b' : Inbox} {acts : List Activity}
    (h : Arrives width b acts b') {tail : List UInt8} (htail : b'.isFinishedTail tail = true) :
    b.readsFinished (String.ofList (trim (readText tail))) = true := by
  obtain ⟨-, -, huser, hsuperuser, hcue, -⟩ := h.setup_eq
  rw [isFinishedTail, isFinished, huser, hsuperuser, hcue, Bool.or_eq_true, Bool.and_eq_true]
    at htail
  rw [readsFinished, Bool.or_eq_true]
  exact htail.imp_left And.right

/-- Handle what stands after the last break if it is finished, and keep it back otherwise. -/
def settle (width : Nat) (tail : List UInt8) (b : Inbox) : Inbox × List Activity :=
  if b.isFinishedTail tail then keeping [] (b.handleLine width (readText tail))
  else keeping tail (b, [])

/-- Handling the tail settles it. -/
theorem handleTail_eq (width : Nat) (b : Inbox) (tail : List UInt8) :
    { b with pending := tail }.handleTail width = b.settle width tail := by
  rw [handleTail, settle]
  dsimp only
  cases tail with
  | nil =>
    rw [isFinishedTail_of_blank areBlank_nil.trim_readText]
    rfl
  | cons c tail =>
    have hsame : isFinished { b with pending := c :: tail }
        (String.ofList (trim (readText (c :: tail)))) = b.isFinishedTail (c :: tail) := rfl
    rw [List.isEmpty_cons, if_neg Bool.false_ne_true, hsame]
    split_ifs
    · rw [← handleLine_keeping]
      exact handleLine_congr (trim_trim _) _
    · rfl

/-- Taking in a chunk: the lines that it ends are handled, and the tail is settled. -/
theorem takeIn_eq (width : Nat) (b : Inbox) (kept chunk : List UInt8) :
    { b with pending := kept }.takeIn width chunk =
      andThen (b.handleLines width (linesOf (cutAtLastBreak (kept ++ chunk)).1))
        (settle width (cutAtLastBreak (kept ++ chunk)).2) := by
  rw [takeIn]
  dsimp only
  rw [handleLines_keeping]
  simp only [keeping, handleTail_eq]
  rfl

/-! ## What comes of a stream -/

/-- What comes of the lines of a stream that are ended. -/
def told (width : Nat) (b : Inbox) (stream : List UInt8) : Inbox × List Activity :=
  b.handleLines width (linesOf (cutAtLastBreak stream).1)

/-- Whether the line of a stream that is not ended is finished. -/
def isDone (width : Nat) (b : Inbox) (stream : List UInt8) : Bool :=
  (told width b stream).1.isFinishedTail (cutAtLastBreak stream).2

/-- What comes of a stream: its lines are handled, the last one only if it is ended or finished. -/
def outcome (width : Nat) (b : Inbox) (stream : List UInt8) : Inbox × List Activity :=
  if isDone width b stream then
    andThen (told width b stream) fun b =>
      b.handleLine width (readText (cutAtLastBreak stream).2)
  else told width b stream

/-- Whether an inbox stands where a stream has led it.  What it keeps back is the line that is not
ended, or blanks that followed a finished one. -/
def Stands (width : Nat) (b : Inbox) (stream : List UInt8) (r : Inbox × List Activity) : Prop :=
  ∃ kept, r = keeping kept (outcome width b stream) ∧
    if isDone width b stream then AreBlank kept else kept = (cutAtLastBreak stream).2

/-- Whether no control sequence is open at any line break of a stream. -/
def ClosedAtBreaks (stream : List UInt8) : Prop :=
  ∀ front c rest, stream = front ++ c :: rest → isBreakByte c = true → IsClosed front

section Chunks

variable {width : Nat} {b : Inbox} {stream chunk : List UInt8} {r : Inbox × List Activity}

/-- Handling the ended lines of a stream and settling its tail leads where the stream leads. -/
theorem stands_settle (width : Nat) (b : Inbox) (stream : List UInt8) :
    Stands width b stream
      (andThen (told width b stream) (settle width (cutAtLastBreak stream).2)) := by
  rw [Stands, outcome]
  cases hdone : isDone width b stream with
  | true =>
    have hsettle : settle width (cutAtLastBreak stream).2 (told width b stream).1 =
        keeping [] ((told width b stream).1.handleLine width
          (readText (cutAtLastBreak stream).2)) := if_pos hdone
    refine ⟨[], ?_, ?_⟩
    · rw [if_pos rfl, keeping_andThen, andThen, andThen, hsettle]
    · rw [if_pos rfl]
      exact areBlank_nil
  | false =>
    have hnot : ¬ isDone width b stream = true := by rw [hdone]; exact Bool.false_ne_true
    have hsettle : settle width (cutAtLastBreak stream).2 (told width b stream).1 =
        keeping (cutAtLastBreak stream).2 ((told width b stream).1, []) := if_neg hnot
    refine ⟨(cutAtLastBreak stream).2, ?_, ?_⟩
    · rw [if_neg Bool.false_ne_true, andThen, hsettle, keeping, keeping, List.append_nil]
    · rw [if_neg Bool.false_ne_true]

/-- Without a break there is no ended line. -/
theorem told_of_breakless (b : Inbox) (h : Breakless stream) : told width b stream = (b, []) := by
  rw [told, cutAtLastBreak_of_breakless h, linesOf_of_breakless breakless_nil,
    handleLines_singleton]
  exact handleLine_of_blank areBlank_nil.trim_readText b

/-- No bytes lead nowhere. -/
theorem stands_nil (width : Nat) (hpending : b.pending = []) : Stands width b [] (b, []) := by
  have hkeep : settle width [] b = (b, []) := by
    rw [settle, isFinishedTail_of_blank areBlank_nil.trim_readText, if_neg Bool.false_ne_true,
      keeping, ← hpending]
  have hsettle := stands_settle width b []
  rwa [told_of_breakless b breakless_nil, cutAtLastBreak_of_breakless breakless_nil, andThen,
    hkeep] at hsettle

/-- A tail and what follows it up to a break are a line that goes on from the ended lines. -/
theorem handleLines_linesOf (hclosed : ClosedAtBreaks stream) (b : Inbox) {more : List UInt8}
    (hmore : Breakless more) :
    b.handleLines width (linesOf (stream ++ more)) =
      andThen (told width b stream) fun b =>
        b.handleLine width (readText ((cutAtLastBreak stream).2 ++ more)) := by
  -- the last break, if there is one, stands between the ended lines and the tail
  rcases breakless_or_exists_last stream with hstream | ⟨front, c, rest, rfl, hc, hrest⟩
  · rw [told_of_breakless b hstream, cutAtLastBreak_of_breakless hstream,
      linesOf_of_breakless (List.forall_mem_append.mpr ⟨hstream, hmore⟩), handleLines_singleton,
      andThen, List.nil_append]
  · have hfront : IsClosed front := hclosed front c rest rfl hc
    rw [told, cutAtLastBreak_of_last front hc hrest, List.append_assoc, List.cons_append,
      linesOf_append_cons hfront hc, linesOf_append_cons hfront hc, handleLines_append,
      handleLines_append, linesOf_of_breakless breakless_nil,
      linesOf_of_breakless (List.forall_mem_append.mpr ⟨hrest, hmore⟩)]
    simp only [handleLines_singleton, handleLine_of_blank areBlank_nil.trim_readText,
      andThen_nothing]

/-- Where no control sequence is open at the breaks, none is open after what follows a tail up to
one when none is open after the stream with it. -/
theorem isClosed_tail_append (hclosed : ClosedAtBreaks stream) {more : List UInt8}
    (h : IsClosed (stream ++ more)) : IsClosed ((cutAtLastBreak stream).2 ++ more) := by
  rcases breakless_or_exists_last stream with hstream | ⟨front, c, rest, rfl, hc, hrest⟩
  · rwa [cutAtLastBreak_of_breakless hstream]
  · have hfront : IsClosed front := hclosed front c rest rfl hc
    rw [List.append_assoc, List.cons_append, isClosed_append_cons hfront hc] at h
    rwa [cutAtLastBreak_of_last front hc hrest]

/-- A line that is finished although it is not ended reads as one. -/
theorem readsFinished_of_isDone (hdone : isDone width b stream = true) :
    b.readsFinished (String.ofList (trim (readText (cutAtLastBreak stream).2))) = true :=
  readsFinished_of_isFinishedTail (arrives_handleLines b _) hdone

/-- A finished line has been handled, and what follows it is blank up to the next break; a line
that is not finished is kept back.  In both cases the line is handled once when it is ended. -/
theorem andThen_outcome {kept more : List UInt8}
    (hkept : if isDone width b stream then AreBlank kept else kept = (cutAtLastBreak stream).2)
    (hmore : isDone width b stream = true → AreBlank more) :
    (andThen (outcome width b stream) fun b => b.handleLine width (readText (kept ++ more))) =
      andThen (told width b stream) fun b =>
        b.handleLine width (readText ((cutAtLastBreak stream).2 ++ more)) := by
  rw [outcome]
  split_ifs at hkept ⊢ with hdone
  · have hblank : AreBlank (kept ++ more) := List.forall_mem_append.mpr ⟨hkept, hmore hdone⟩
    have htail := trim_readText_append (cutAtLastBreak stream).2 (hmore hdone)
    simp only [handleLine_of_blank hblank.trim_readText, handleLine_congr htail, andThen_nothing]
  · rw [hkept]

/-- A chunk that ends no line goes on where the stream has led. -/
theorem stands_of_breakless {kept : List UInt8} (hchunk : Breakless chunk)
    (hkept : if isDone width b stream then AreBlank kept else kept = (cutAtLastBreak stream).2)
    (hblank : isDone width b stream = true → AreBlank chunk) :
    Stands width b (stream ++ chunk)
      (andThen (outcome width b stream) (settle width (kept ++ chunk))) := by
  have hcut := cutAtLastBreak_append_breakless stream hchunk
  have htold : told width b (stream ++ chunk) = told width b stream := by rw [told, told, hcut]
  cases hdone : isDone width b stream with
  | false =>
    have hsettle := stands_settle width b (stream ++ chunk)
    rw [htold, hcut] at hsettle
    rw [hdone, if_neg Bool.false_ne_true] at hkept
    rw [outcome, hdone, if_neg Bool.false_ne_true, hkept]
    exact hsettle
  | true =>
    -- the finished line has been handled, and the chunk adds nothing to it but blanks
    rw [hdone, if_pos rfl] at hkept
    have hall : AreBlank (kept ++ chunk) := List.forall_mem_append.mpr ⟨hkept, hblank hdone⟩
    have htail := trim_readText_append (cutAtLastBreak stream).2 (hblank hdone)
    have hstill : isDone width b (stream ++ chunk) = true := by
      rw [isDone, htold, hcut, isFinishedTail, htail]
      exact hdone
    have hsame : outcome width b (stream ++ chunk) = outcome width b stream := by
      rw [outcome, outcome, hstill, hdone, htold, hcut]
      simp only [handleLine_congr htail]
    have hsettle : settle width (kept ++ chunk) = fun b => keeping (kept ++ chunk) (b, []) := by
      funext c
      rw [settle, isFinishedTail_of_blank hall.trim_readText, if_neg Bool.false_ne_true]
    refine ⟨kept ++ chunk, ?_, ?_⟩
    · rw [hsame, hsettle]
      exact congrArg (keeping (kept ++ chunk)) (andThen_nothing (outcome width b stream))
    · rw [hstill, if_pos rfl]
      exact hall

/-- A chunk that ends a line goes on where the stream has led. -/
theorem stands_of_break {kept front : List UInt8} {c : UInt8} (hc : isBreakByte c = true)
    (rest : List UInt8) (hclosed : ClosedAtBreaks (stream ++ (front ++ c :: rest)))
    (hbreakless : Breakless (kept ++ front)) (hfront : Breakless front)
    (hkept : if isDone width b stream then AreBlank kept else kept = (cutAtLastBreak stream).2)
    (hblank : isDone width b stream = true → AreBlank front) :
    Stands width b (stream ++ (front ++ c :: rest))
      (andThen (outcome width b stream) fun b =>
        andThen (b.handleLines width (linesOf (cutAtLastBreak (kept ++ (front ++ c :: rest))).1))
          (settle width (cutAtLastBreak (kept ++ (front ++ c :: rest))).2)) := by
  have hstream : ClosedAtBreaks stream := fun x d y hxy hd =>
    hclosed x d (y ++ (front ++ c :: rest)) (by rw [hxy]; simp) hd
  have hend : IsClosed (stream ++ front) := hclosed _ c rest (List.append_assoc _ _ _).symm hc
  have hkeptEnd : IsClosed (kept ++ front) := by
    split_ifs at hkept with hdone
    · exact AreBlank.isClosed (List.forall_mem_append.mpr ⟨hkept, hblank hdone⟩)
    · exact hkept ▸ isClosed_tail_append hstream hend
  have hlines (d : Inbox) :
      d.handleLines width (linesOf (kept ++ front ++ c :: (cutAtLastBreak rest).1)) =
        andThen (d.handleLine width (readText (kept ++ front))) fun b =>
          b.handleLines width (linesOf (cutAtLastBreak rest).1) := by
    rw [linesOf_append_cons hkeptEnd hc, linesOf_of_breakless hbreakless, handleLines_append,
      handleLines_singleton]
  have htold : told width b (stream ++ front ++ c :: rest) =
      andThen (andThen (outcome width b stream) fun b =>
        b.handleLine width (readText (kept ++ front))) fun b =>
          b.handleLines width (linesOf (cutAtLastBreak rest).1) := by
    rw [told, cutAtLastBreak_append_cons _ hc, linesOf_append_cons hend hc, handleLines_append,
      handleLines_linesOf hstream b hfront, andThen_outcome hkept hblank]
  have hsettle := stands_settle width b (stream ++ front ++ c :: rest)
  rw [htold, cutAtLastBreak_append_cons _ hc, andThen_assoc, andThen_assoc] at hsettle
  rw [← List.append_assoc, ← List.append_assoc, cutAtLastBreak_append_cons _ hc]
  simp only [hlines, andThen_assoc]
  exact hsettle

/-- **One chunk goes on where the stream has led.** -/
theorem Stands.takeIn (h : Stands width b stream r) (chunk : List UInt8)
    (hclosed : ClosedAtBreaks (stream ++ chunk))
    (hlast : b.readsFinished (String.ofList (trim (readText (cutAtLastBreak stream).2))) = true →
      AreBlank (chunk.takeWhile fun c => !isBreakByte c)) :
    Stands width b (stream ++ chunk) (andThen r fun b => b.takeIn width chunk) := by
  obtain ⟨kept, rfl, hkept⟩ := h
  have hbreakless : Breakless kept := by
    split_ifs at hkept
    · exact hkept.breakless
    · exact hkept ▸ breakless_cutAtLastBreak stream
  have htake : (andThen (keeping kept (outcome width b stream)) fun b => b.takeIn width chunk) =
      andThen (outcome width b stream) fun b =>
        andThen (b.handleLines width (linesOf (cutAtLastBreak (kept ++ chunk)).1))
          (settle width (cutAtLastBreak (kept ++ chunk)).2) := by
    simp only [andThen, keeping, takeIn_eq]
  have hblank (hdone : isDone width b stream = true) :
      AreBlank (chunk.takeWhile fun c => !isBreakByte c) := hlast (readsFinished_of_isDone hdone)
  rw [htake]
  -- a chunk without a break adds to the line that is not ended; its first break ends that line
  rcases breakless_or_exists_first chunk with hchunk | ⟨front, c, rest, rfl, hc, hfront⟩
  · have hnothing (b : Inbox) : b.handleLines width (linesOf []) = (b, []) :=
      told_of_breakless b breakless_nil
    rw [hchunk.takeWhile_eq] at hblank
    rw [cutAtLastBreak_of_breakless (List.forall_mem_append.mpr ⟨hbreakless, hchunk⟩)]
    simp only [hnothing]
    exact stands_of_breakless hchunk hkept hblank
  · rw [hfront.takeWhile_append_cons hc] at hblank
    exact stands_of_break hc rest hclosed (List.forall_mem_append.mpr ⟨hbreakless, hfront⟩) hfront
      hkept hblank

end Chunks

/-! ## Streams -/

/-- Receive chunks of one connection, one after the other. -/
def receiveAll (width generation : Nat) (b : Inbox) (chunks : List (List UInt8)) :
    Inbox × List Activity :=
  chunks.foldl (fun r chunk => andThen r (receive width generation chunk)) (b, [])

instance (bytes : List UInt8) : Decidable (IsClosed bytes) :=
  inferInstanceAs (Decidable (_ = false))

instance (bytes : List UInt8) : Decidable (AreBlank bytes) :=
  inferInstanceAs (Decidable (∀ c ∈ bytes, _))

/-- Whether a stream may be cut anywhere. -/
structure Cuttable (b : Inbox) (stream : List UInt8) : Prop where
  /-- No control sequence reaches over a line break. -/
  closed : ∀ n, ∀ h : n < stream.length, isBreakByte stream[n] = true → IsClosed (stream.take n)
  /-- Only spaces and tabs follow the front of a line that reads as finished. -/
  finished : ∀ line ∈ splitAtEach isBreakByte stream, ∀ n < line.length,
    b.readsFinished (String.ofList (trim (readText (line.take n)))) = true →
      AreBlank (line.drop n)

section Streams

variable {width : Nat} {b : Inbox} {stream more : List UInt8}

/-- In a stream that may be cut anywhere, no control sequence is open at a break of its front. -/
theorem Cuttable.closedAtBreaks (h : Cuttable b (stream ++ more)) : ClosedAtBreaks stream := by
  rintro front c rest rfl hc
  have hlength : front.length < (front ++ c :: rest ++ more).length := by
    simp only [List.length_append, List.length_cons]
    omega
  have hclosed := h.closed front.length hlength (by simpa using hc)
  simpa using hclosed

/-- In a stream that may be cut anywhere, only blanks follow what is kept of its front if that
reads as finished. -/
theorem Cuttable.areBlank {chunk : List UInt8} (h : Cuttable b (stream ++ (chunk ++ more)))
    (hreads : b.readsFinished
      (String.ofList (trim (readText (cutAtLastBreak stream).2))) = true) :
    AreBlank (chunk.takeWhile fun c => !isBreakByte c) := by
  have hline := takeWhile_mem_splitAtEach stream (chunk ++ more)
  rw [(breakless_cutAtLastBreak stream).takeWhile_append] at hline
  have hall : AreBlank ((chunk ++ more).takeWhile fun c => !isBreakByte c) := by
    by_cases hnone : ((chunk ++ more).takeWhile fun c => !isBreakByte c) = []
    · rw [hnone]
      exact areBlank_nil
    · have hlength : (cutAtLastBreak stream).2.length <
          ((cutAtLastBreak stream).2 ++
            (chunk ++ more).takeWhile fun c => !isBreakByte c).length := by
        rw [List.length_append]
        have := List.length_pos_iff.mpr hnone
        omega
      have hblank := h.finished _ hline _ hlength (by rwa [List.take_left])
      rwa [List.drop_left] at hblank
  rcases breakless_or_exists_first chunk with hchunk | ⟨front, c, rest, rfl, hc, hfront⟩
  · rw [hchunk.takeWhile_append] at hall
    rw [hchunk.takeWhile_eq]
    exact fun c hc => hall c (List.mem_append_left _ hc)
  · rw [List.append_assoc, List.cons_append, hfront.takeWhile_append_cons hc] at hall
    rwa [hfront.takeWhile_append_cons hc]

/-- What comes of a stream comes of lines. -/
theorem arrives_outcome (width : Nat) (b : Inbox) (stream : List UInt8) :
    Arrives width b (outcome width b stream).2 (outcome width b stream).1 := by
  have htold : Arrives width b (told width b stream).2 (told width b stream).1 :=
    arrives_handleLines b _
  rw [outcome]
  split_ifs
  · rw [andThen]
    exact htold.trans (arrives_handleLine _ _)
  · exact htold

/-- Wherever a stream leads, the generation stays. -/
theorem Stands.generation_eq {r : Inbox × List Activity} (h : Stands width b stream r) :
    r.1.generation = b.generation := by
  obtain ⟨kept, rfl, -⟩ := h
  have houtcome := (arrives_outcome width b stream).setup_eq.1
  rwa [keeping]

/-- **Chunks go on where the stream has led.** -/
theorem Stands.receiveAll {r : Inbox × List Activity} (h : Stands width b stream r)
    (chunks : List (List UInt8)) (hstream : Cuttable b (stream ++ chunks.flatten)) :
    Stands width b (stream ++ chunks.flatten)
      (chunks.foldl (fun r chunk => andThen r (receive width b.generation chunk)) r) := by
  induction chunks generalizing stream r with
  | nil => simpa using h
  | cons chunk chunks ih =>
    rw [List.flatten_cons] at hstream ⊢
    have hreceive : andThen r (receive width b.generation chunk) =
        andThen r fun b => b.takeIn width chunk := by
      rw [andThen, andThen, receive, if_pos h.generation_eq]
    have hrest : Cuttable b (stream ++ chunk ++ chunks.flatten) := by rwa [List.append_assoc]
    rw [List.foldl_cons, hreceive, ← List.append_assoc]
    exact ih (h.takeIn chunk hrest.closedAtBreaks hstream.areBlank) hrest

end Streams

/-- **It does not matter where a stream is cut.**  However a stream that may be cut anywhere is
cut into chunks, receiving them notes the same activities, the entries of the console among them,
and leaves the same inbox but for the bytes that it keeps back. -/
theorem receiveAll_chunks (width : Nat) {b : Inbox} {stream : List UInt8}
    {chunks chunks' : List (List UInt8)} (hpending : b.pending = []) (hstream : Cuttable b stream)
    (hchunks : chunks.flatten = stream) (hchunks' : chunks'.flatten = stream) :
    (b.receiveAll width b.generation chunks).2 = (b.receiveAll width b.generation chunks').2 ∧
      ∃ kept, (b.receiveAll width b.generation chunks).1 =
        { (b.receiveAll width b.generation chunks').1 with pending := kept } := by
  have hstart := stands_nil width hpending
  obtain ⟨kept, hkept, -⟩ := hstart.receiveAll chunks (by rwa [hchunks])
  obtain ⟨kept', hkept', -⟩ := hstart.receiveAll chunks' (by rwa [hchunks'])
  rw [List.nil_append, hchunks] at hkept
  rw [List.nil_append, hchunks'] at hkept'
  rw [Inbox.receiveAll, Inbox.receiveAll, hkept, hkept']
  exact ⟨rfl, kept, rfl⟩

/-- An inbox of a session that has sent a privileged command. -/
def awaitingAnswer : Inbox :=
  { generation := 3, phase := .awaitingPrompt, user := "deploy", superuser := "root",
    passwordCue := "password", lastSent := some "sudo id", awaitingCue := true }

/-- What the remote shell prints: the echo, the request, coloured output and the prompt. -/
def answeredStream : List UInt8 :=
  encode "sudo id\r\npassword: \r\n\x1b[31mré\x1b[0m\r\ndeploy@box:~$ ".toList

/-- The bytes of that stream, one by one. -/
def answeredBytes : List (List UInt8) := answeredStream.map fun c => [c]

/-- A stream with a request, a control sequence, a character of two bytes and a prompt comes to
the same in one chunk and byte by byte. -/
theorem receiveAll_answeredStream :
    awaitingAnswer.pending = [] ∧ Cuttable awaitingAnswer answeredStream ∧
      [answeredStream].flatten = answeredStream ∧ answeredBytes.flatten = answeredStream ∧
      (awaitingAnswer.receiveAll 40 awaitingAnswer.generation [answeredStream]).2 =
        (awaitingAnswer.receiveAll 40 awaitingAnswer.generation answeredBytes).2 ∧
      ∃ kept, (awaitingAnswer.receiveAll 40 awaitingAnswer.generation [answeredStream]).1 =
        { (awaitingAnswer.receiveAll 40 awaitingAnswer.generation answeredBytes).1 with
          pending := kept } := by
  have hpending : awaitingAnswer.pending = [] := rfl
  have hcuttable : Cuttable awaitingAnswer answeredStream :=
    ⟨by decide +kernel, by decide +kernel⟩
  have hwhole : [answeredStream].flatten = answeredStream := List.flatten_singleton
  have hbytes : answeredBytes.flatten = answeredStream := by decide +kernel
  exact ⟨hpending, hcuttable, hwhole, hbytes,
    receiveAll_chunks 40 hpending hcuttable hwhole hbytes⟩

end ScriptedShell.Remote.Inbox
