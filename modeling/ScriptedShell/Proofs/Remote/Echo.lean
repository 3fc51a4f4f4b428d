/-
# The echo of a line

A line that is sent comes back from the remote shell, and it is dropped when it reads as the line
that was sent.  But bytes that were kept back before it are part of it.  After a prompt nothing is
kept when it was taken as finished at its end; when it was taken as finished before, because it was
cut there, the rest of it is kept (`leftOver`).  So the echo is dropped exactly when what is left of
the prompt reads as nothing but blanks (`send_echo_iff`): it matters where the prompt was cut.
-/
import Mathlib
import ScriptedShell.Proofs.Remote.Chunks
import ScriptedShell.Proofs.Remote.FirstAnswer
import ScriptedShell.Proofs.Remote.Output
import ScriptedShell.Proofs.Terminal.Escape
import ScriptedShell.Proofs.Text.Encoding

namespace ScriptedShell.Remote

open Text Terminal

/-! ## Texts -/

/-- Characters that are no control characters are shown. -/
theorem stripFrom_of_printable {text : List Char} (h : ∀ c ∈ text, isControl c = false) :
    stripFrom .plain text = text := by
  induction text with
  | nil => rfl
  | cons c text ih =>
    have hc := h c List.mem_cons_self
    have hplain : c ≠ escapeChar := by
      rintro rfl
      exact absurd hc (by decide)
    have hkeeps : ScanState.keeps .plain c = true := by simp [ScanState.keeps, keepsPlain, hc]
    have hnext : ScanState.next .plain c = .plain := if_neg hplain
    rw [stripFrom, if_pos hkeeps, hnext, ih fun d hd => h d (List.mem_cons_of_mem c hd)]

/-- A character that is no control character does not break lines. -/
theorem not_isLineBreak_of_printable {c : Char} (h : isControl c = false) :
    isLineBreak c = false := by
  rw [← Bool.not_eq_true, isLineBreak, Bool.or_eq_true, decide_eq_true_eq, decide_eq_true_eq]
  rintro (rfl | rfl)
  · exact absurd h (by decide)
  · exact absurd h (by decide)

/-- Bytes of a text without line breaks are none. -/
theorem breakless_encode {cs : List Char} (h : ∀ c ∈ cs, isLineBreak c = false) :
    Inbox.Breakless (encode cs) := by
  intro b hb
  obtain ⟨c, hc, hbyte⟩ := List.mem_flatMap.mp hb
  rw [← Bool.not_eq_true, Inbox.isBreakByte_iff]
  intro hbreak
  have hlow : b.toNat < 0x80 := by rcases hbreak with rfl | rfl <;> decide
  have hvalue := toNat_of_mem_utf8EncodeChar hbyte hlow
  have hchar : isLineBreak (Char.ofNat c.toNat) = true := by
    rw [← hvalue]
    exact (Inbox.isLineBreak_of_isBreakByte ((Inbox.isBreakByte_iff b).mpr hbreak)).2
  rw [Char.ofNat_toNat, h c hc] at hchar
  exact Bool.false_ne_true hchar

namespace Inbox

/-! ## What is left of a prompt -/

/-- What is kept back of a line that arrives in chunks: when it reads as finished after a chunk, it
is handled and nothing is kept of it, and otherwise all of it is kept. -/
def leftOver (width : Nat) : Inbox → List (List UInt8) → List UInt8
  | b, [] => b.pending
  | b, chunk :: chunks =>
    if b.isFinishedTail (b.pending ++ chunk) then
      leftOver width { (b.handleLine width (readText (b.pending ++ chunk))).1 with pending := [] }
        chunks
    else leftOver width { b with pending := b.pending ++ chunk } chunks

/-- What is left of a line is its end. -/
theorem leftOver_suffix (width : Nat) (b : Inbox) (chunks : List (List UInt8)) :
    leftOver width b chunks <:+ b.pending ++ chunks.flatten := by
  induction chunks generalizing b with
  | nil => simp [leftOver]
  | cons chunk chunks ih =>
    rw [leftOver, List.flatten_cons, ← List.append_assoc]
    split_ifs
    · exact (ih _).trans (List.suffix_append _ _)
    · exact ih _

/-- A chunk without a break settles the line that it goes on with. -/
theorem takeIn_of_breakless (width : Nat) (b : Inbox) {chunk : List UInt8}
    (h : Breakless (b.pending ++ chunk)) :
    b.takeIn width chunk = b.settle width (b.pending ++ chunk) := by
  have htake := takeIn_eq width b b.pending chunk
  rw [cutAtLastBreak_of_breakless h, linesOf_of_breakless breakless_nil, handleLines_singleton,
    handleLine_of_blank areBlank_nil.trim_readText] at htake
  exact htake

section Left

variable {prompt : List Char} {kept : List UInt8} {text : List Char}

/-- At the end of a decorated text the scanner is in plain text, and what follows is decoded by
itself. -/
theorem decodeLossy_left (hprompt : IsDecorated prompt) (hkept : kept <:+ encode prompt) :
    scanState .plain (decodeLossy kept) = .plain ∧
      ∀ rest, decodeLossy (kept ++ rest) = decodeLossy kept ++ decodeLossy rest := by
  obtain ⟨n, cs, hcs, hread⟩ := exists_decodeLossy_suffix hkept
  have hkeptRead : decodeLossy kept = List.replicate n replacementChar ++ cs := by
    have hnothing := hread []
    rwa [List.append_nil, decodeLossy_nil, List.append_nil] at hnothing
  constructor
  · have hreplaced : scanState .plain (List.replicate n replacementChar) = .plain := by
      refine scanState_plain fun c hc => ?_
      rw [List.eq_of_mem_replicate hc]
      decide
    rw [hkeptRead, scanState_append, hreplaced]
    exact hprompt.scanState_suffix hcs
  · intro rest
    rw [hread, hkeptRead, List.append_assoc]

/-- What is left of a prompt reads with the text that follows as one line. -/
theorem readText_left (hprompt : IsDecorated prompt) (hkept : kept <:+ encode prompt)
    (htext : ∀ c ∈ text, isControl c = false) :
    readText (kept ++ encode text) = readText kept ++ text := by
  obtain ⟨hplain, hdecode⟩ := decodeLossy_left hprompt hkept
  rw [readText, hdecode, decodeLossy_encode, strip, stripFrom_append, hplain, stripFrom_of_printable htext]
  rfl

/-- No control sequence is open after what is left of a prompt and the text that follows. -/
theorem isClosed_left (hprompt : IsDecorated prompt) (hkept : kept <:+ encode prompt)
    (htext : ∀ c ∈ text, isControl c = false) : IsClosed (kept ++ encode text) := by
  obtain ⟨hplain, hdecode⟩ := decodeLossy_left hprompt hkept
  have hshown : scanState .plain text = .plain := by
    refine scanState_plain fun c hc => ?_
    rintro rfl
    exact absurd (htext _ hc) (by decide)
  rw [IsClosed, hdecode, decodeLossy_encode, scanState_append, hplain, hshown]
  rfl

/-- Neither what is left of a prompt nor the text that follows breaks the line. -/
theorem breakless_left (hprompt : IsDecorated prompt) (hkept : kept <:+ encode prompt)
    (htext : ∀ c ∈ text, isControl c = false) : Breakless (kept ++ encode text) := by
  refine List.forall_mem_append.mpr ⟨fun b hb => ?_, ?_⟩
  · exact breakless_encode (fun c hc => hprompt.not_isLineBreak hc) b (hkept.mem hb)
  · exact breakless_encode fun c hc => not_isLineBreak_of_printable (htext c hc)

/-- **The echo and what follows it**: what is left of a prompt and the echo are handled as one line,
and what follows is taken in with nothing kept back. -/
theorem takeIn_echo (width : Nat) (b : Inbox) (hprompt : IsDecorated prompt)
    (hkept : b.pending <:+ encode prompt) (htext : ∀ c ∈ text, isControl c = false)
    (more : List UInt8) :
    b.takeIn width (encode text ++ 13 :: 10 :: more) =
      andThen (b.handleLine width (readText b.pending ++ text)) fun b =>
        { b with pending := [] }.takeIn width more := by
  have hreturn : isBreakByte 13 = true := rfl
  have hfeed : isBreakByte 10 = true := rfl
  have hcut : cutAtLastBreak (b.pending ++ (encode text ++ 13 :: 10 :: more)) =
      (b.pending ++ encode text ++ 13 :: ([] ++ 10 :: (cutAtLastBreak more).1),
        (cutAtLastBreak more).2) := by
    rw [← List.append_assoc, cutAtLastBreak_append_cons _ hreturn,
      ← List.nil_append (10 :: more), cutAtLastBreak_append_cons _ hfeed]
  have hlines : linesOf (b.pending ++ encode text ++ 13 :: ([] ++ 10 :: (cutAtLastBreak more).1)) =
      [readText b.pending ++ text] ++ ([readText []] ++ linesOf (cutAtLastBreak more).1) := by
    rw [linesOf_append_cons (isClosed_left hprompt hkept htext) hreturn,
      linesOf_append_cons areBlank_nil.isClosed hfeed,
      linesOf_of_breakless (breakless_left hprompt hkept htext), linesOf_of_breakless breakless_nil,
      readText_left hprompt hkept htext]
  -- the line between the carriage return and the line feed is blank
  have hblank (b : Inbox) (lines : List (List Char)) :
      b.handleLines width ([readText []] ++ lines) = b.handleLines width lines := by
    rw [handleLines_append, handleLines_singleton,
      handleLine_of_blank areBlank_nil.trim_readText]
    rfl
  have hmore (b : Inbox) : { b with pending := [] }.takeIn width more =
      andThen (b.handleLines width (linesOf (cutAtLastBreak more).1))
        (settle width (cutAtLastBreak more).2) := takeIn_eq width b [] more
  have htake := takeIn_eq width b b.pending (encode text ++ 13 :: 10 :: more)
  rw [hcut, hlines, handleLines_append, handleLines_singleton, andThen_assoc] at htake
  simp only [hblank, ← hmore] at htake
  exact htake

end Left

/-- A line is taken for the echo exactly when it is the line that was sent. -/
theorem classify_eq_echo_iff (b : Inbox) (line : String) :
    b.classify line = .echo ↔ b.lastSent = some line := by
  rw [classify]
  split_ifs with hecho hcue hprompt
  · simp [hecho]
  · simp [hecho]
  · simp [hecho]
  · simp [hecho]

/-- Handling a line that is not blank. -/
theorem handleLine_of_not_blank (width : Nat) (b : Inbox) {text : List Char} (h : trim text ≠ []) :
    b.handleLine width text =
      (b.afterLine (String.ofList (trim text)) (b.classify (String.ofList (trim text))),
        .heard (String.ofList (trim text)) (b.classify (String.ofList (trim text))) ::
          b.display width (String.ofList (trim text))
            (b.classify (String.ofList (trim text)))) := by
  have hline : ¬ (String.ofList (trim text)).isEmpty = true := by
    simpa [String.isEmpty_iff] using h
  rw [handleLine]
  dsimp only
  rw [if_neg hline]

end Inbox

namespace Session

open Inbox

variable {σ : Type}

/-! ## A prompt in chunks -/

/-- The deliveries of chunks through a connection. -/
def chunksThrough (connection : Nat) (chunks : List (List UInt8)) : List Delivery :=
  chunks.map fun bytes => ⟨connection, .data bytes⟩

/-- A delivery through the connection listened to is taken in. -/
theorem deliver_data (width : Nat) {s : Session σ} {connection : Nat}
    (hlistens : s.handlers[connection]? = some s.inbox.generation) (bytes : List UInt8) :
    s.deliver width ⟨connection, .data bytes⟩ =
      { s with inbox := (s.inbox.takeIn width bytes).1 }.note (s.inbox.takeIn width bytes).2 := by
  rw [deliver, hlistens]
  dsimp only
  rw [accept]
  dsimp only
  rw [receive, if_pos rfl]

/-- What is kept back after chunks of a line. -/
theorem pending_deliverAll (width : Nat) {s : Session σ} {connection : Nat}
    (hlistens : s.handlers[connection]? = some s.inbox.generation) {chunks : List (List UInt8)}
    (hline : Breakless (s.inbox.pending ++ chunks.flatten)) :
    (s.deliverAll width (chunksThrough connection chunks)).inbox.pending =
      leftOver width s.inbox chunks := by
  induction chunks generalizing s with
  | nil => rfl
  | cons chunk chunks ih =>
    rw [List.flatten_cons, ← List.append_assoc] at hline
    have hfront : Breakless (s.inbox.pending ++ chunk) :=
      fun c hc => hline c (List.mem_append_left _ hc)
    have hrest : Breakless chunks.flatten := fun c hc => hline c (List.mem_append_right _ hc)
    have hdeliver := deliver_data width hlistens chunk
    rw [takeIn_of_breakless width s.inbox hfront] at hdeliver
    have hkeeps : Keeps s (s.deliver width ⟨connection, .data chunk⟩) := by
      obtain ⟨acts, h⟩ := delivers_deliver width s ⟨connection, .data chunk⟩
      exact .of_delivers h
    have hnext : (s.deliver width ⟨connection, .data chunk⟩).handlers[connection]? =
        some (s.deliver width ⟨connection, .data chunk⟩).inbox.generation := by
      rw [hkeeps.handlers_eq, hkeeps.generation_eq, hlistens]
    have hsettled : (s.deliver width ⟨connection, .data chunk⟩).inbox =
        (s.inbox.settle width (s.inbox.pending ++ chunk)).1 := by rw [hdeliver]; rfl
    change ((s.deliver width ⟨connection, .data chunk⟩).deliverAll width
      (chunksThrough connection chunks)).inbox.pending = _
    rw [leftOver, ih hnext, hsettled, settle]
    · split_ifs <;> rfl
    · rw [hsettled, settle]
      split_ifs
      · exact hrest
      · exact hline

/-! ## A line and its echo -/

/-- Whether a session holds a connection and attends to what comes through it, as its stream has not
failed. -/
structure Attends (s : Session σ) (connection : Nat) : Prop where
  channel_eq : s.channel = some connection
  endpoint_isSome : s.endpoint.isSome = true
  current : s.handlers[connection]? = some s.inbox.generation
  streamError_eq : s.inbox.streamError = none

/-- Whether an activity is a line that is about to be sent, or a call to the host. -/
def IsSending : Activity → Prop
  | .sending _ | .wrote .. | .flushed _ => True
  | _ => False

/-- Before the echo nothing is gathered and no prompt is heard. -/
theorem gather_echo {before : List Activity} (h : ∀ a ∈ before, IsSending a) (line : String) :
    (∀ known, (before ++ [Activity.heard line .echo]).foldl gather known = known) ∧
      linesHeard .prompt (before ++ [Activity.heard line .echo]) = [] := by
  induction before with
  | nil => exact ⟨fun known => rfl, rfl⟩
  | cons a before ih =>
    have ha := h a List.mem_cons_self
    obtain ⟨hgather, hnone⟩ := ih fun b hb => h b (List.mem_cons_of_mem a hb)
    rw [List.cons_append]
    cases a with
    | sending text => exact ⟨hgather, hnone⟩
    | wrote connection text => exact ⟨hgather, hnone⟩
    | flushed connection => exact ⟨hgather, hnone⟩
    | _ => cases ha

/-- A delivery to a session that sends a line of printable characters, when it begins with the echo of
that line: what is left of the prompt and the echo are the first line that is heard. -/
theorem trace_deliver_echo (width : Nat) {v : Session σ} {connection : Nat} {prompt text : List Char}
    (hprompt : IsDecorated prompt) (hkept : v.inbox.pending <:+ encode prompt)
    (hlistens : v.handlers[connection]? = some v.inbox.generation)
    (htext : ∀ c ∈ text, isControl c = false)
    (hline : trim (readText v.inbox.pending ++ text) ≠ []) (more : List UInt8) :
    let line := String.ofList (trim (readText v.inbox.pending ++ text))
    ∃ after, (v.deliver width ⟨connection, .data (encode text ++ 13 :: 10 :: more)⟩).trace =
      v.trace ++ .heard line (v.inbox.classify line) ::
        (v.inbox.display width line (v.inbox.classify line) ++ after) := by
  intro line
  rw [deliver_data width hlistens, takeIn_echo width v.inbox hprompt hkept htext more,
    handleLine_of_not_blank width v.inbox hline]
  exact ⟨_, rfl⟩

/-- What is delivered first to a send and begins with the echo of its line makes the first line that
the send hears; before that, the line is only sent. -/
theorem trace_sendThrough_echo (host : Host σ) (setup : Setup) {u : Session σ} {connection : Nat}
    (password : String) {prompt : List Char} {text : String} {more : List UInt8}
    (hprompt : IsDecorated prompt) (hkept : u.inbox.pending <:+ encode prompt)
    (hattends : Attends u connection) (htext : ∀ c ∈ text.toList, isControl c = false)
    (hline : trim (readText u.inbox.pending ++ text.toList) ≠ [])
    (hecho : host.firstAnswer setup connection text u.world =
      some ⟨connection, .data (encode text.toList ++ 13 :: 10 :: more)⟩) :
    let line := String.ofList (trim (readText u.inbox.pending ++ text.toList))
    ∃ before kind after, (u.sendThrough host setup connection password text).2.trace =
        u.trace ++ (before ++ .heard line kind ::
          ((u.begun setup text).inbox.display setup.width line kind ++ after)) ∧
      (∀ a ∈ before, IsSending a) ∧ (kind = .echo ↔ text = line) := by
  intro line
  obtain ⟨v, ⟨⟨awaiting, hinbox⟩, hhandlers, calls, hcalled, hcalls⟩, ⟨later, hlater, -⟩, -, -⟩ :=
    meets_sendThrough host setup u connection password text hattends.streamError_eq hecho
  -- the session that takes the delivery in has what it had when it began to send
  have hpending : v.inbox.pending = u.inbox.pending := by rw [hinbox]; rfl
  have hcurrent : v.handlers[connection]? = some v.inbox.generation := by
    rw [hhandlers, hinbox]
    exact hattends.current
  have hsent : v.inbox.lastSent = some text := by rw [hinbox]; rfl
  have hkind : v.inbox.classify line = .echo ↔ text = line := by
    rw [classify_eq_echo_iff, hsent, Option.some.injEq]
  have hdisplay (kind : LineKind) : v.inbox.display setup.width line kind =
      (u.begun setup text).inbox.display setup.width line kind := by rw [hinbox]; rfl
  obtain ⟨acts, hdelivered⟩ := trace_deliver_echo setup.width hprompt (hpending ▸ hkept) hcurrent
    htext (hpending ▸ hline) more
  rw [hpending, hdisplay] at hdelivered
  refine ⟨.sending text :: calls, v.inbox.classify line, acts ++ later, ?_, fun a ha => ?_, hkind⟩
  · rw [hlater, hdelivered, hcalled]
    simp [begun, note, line]
  · rcases List.mem_cons.mp ha with rfl | ha
    · trivial
    · rcases hcalls a ha with ⟨c, t, rfl⟩ | ⟨c, rfl⟩ <;> trivial

/-- A line that is sent through a connection that is attended to. -/
theorem Attends.send_eq (host : Host σ) (setup : Setup) {u : Session σ} {connection : Nat}
    (h : Attends u connection) (text : String) :
    ∃ password, u.send host setup text =
      u.sendThrough host setup connection password (trimmed text) := by
  obtain ⟨endpoint, hendpoint⟩ := Option.isSome_iff_exists.mp h.endpoint_isSome
  refine ⟨endpoint.password, ?_⟩
  rw [send, hendpoint, h.channel_eq]
  dsimp only
  rw [h.streamError_eq]

/-- What a send returns is what is gathered from the lines that it has heard. -/
theorem isAnswer_sendThrough (host : Host σ) (setup : Setup) (s : Session σ) (connection : Nat)
    (password text : String) {lines : List String} {acts : List Activity}
    (hsent : (s.sendThrough host setup connection password text).1 = .output lines)
    (htrace : (s.sendThrough host setup connection password text).2.trace = s.trace ++ acts)
    {before after : List Activity} (hacts : acts = before ++ after)
    (hbefore : ∀ known, before.foldl gather known = known) (hnone : linesHeard .prompt before = []) :
    IsAnswer after lines := by
  obtain ⟨more, hrun⟩ := sendRun_sendThrough host setup s connection password text
  rw [hsent] at hrun
  obtain ⟨b, hrecords, hlines, hheard⟩ := hrun.records
  have hsame : acts = .sending text :: .wrote connection (text ++ "\r") :: more :=
    List.append_cancel_left (htrace.symm.trans hrun.trace_eq)
  have hgathered : (b.queue, b.completed) = acts.foldl gather ([], []) := by
    rw [hsame]
    exact hrecords.gathered
  rw [hacts, List.foldl_append, hbefore] at hgathered
  have hafter : linesHeard .prompt after ≠ [] := by
    intro hnil
    have hall : linesHeard .prompt acts = [] := by rw [hacts, linesHeard_append, hnone, hnil]; rfl
    rw [hsame] at hall
    exact hheard hall
  rw [hlines, show b.completed = (after.foldl gather ([], [])).2 from congrArg Prod.snd hgathered]
  exact isAnswer_gather after hafter []

/-- **When the echo of a line is dropped.**  A prompt has come in chunks, later a line of printable
characters is sent, and its echo comes back first.  The first line that the send hears is then the
echo with what is left of the prompt before it.  It is taken for the echo, so that it shows nothing
and what is returned is the output heard after it, exactly when what is left of the prompt reads as
blanks. -/
theorem send_echo_iff (host : Host σ) (setup : Setup) {s u : Session σ} {connection : Nat}
    {prompt : List Char} {chunks : List (List UInt8)} {text : String} {more : List UInt8}
    (hprompt : IsDecorated prompt)
    (hcurrent : s.handlers[connection]? = some s.inbox.generation)
    (hchunks : s.inbox.pending ++ chunks.flatten = encode prompt)
    (hattends : Attends u connection)
    (hkept : u.inbox.pending =
      (s.deliverAll setup.width (chunksThrough connection chunks)).inbox.pending)
    (htext : ∀ c ∈ text.toList, isControl c = false) (hnonempty : trim text.toList ≠ [])
    (hecho : host.firstAnswer setup connection (trimmed text) u.world =
      some ⟨connection, .data (encode (trim text.toList) ++ 13 :: 10 :: more)⟩) :
    ∃ before line kind after,
      (u.send host setup text).2.trace = u.trace ++ (before ++ .heard line kind ::
        ((u.begun setup (trimmed text)).inbox.display setup.width line kind ++ after)) ∧
      (∀ a ∈ before, IsSending a) ∧
      line = String.ofList
        (trim (readText (leftOver setup.width s.inbox chunks) ++ trim text.toList)) ∧
      (kind = .echo ↔
        ∀ c ∈ readText (leftOver setup.width s.inbox chunks), isBlank c = true) ∧
      (kind = .echo → ∀ lines, (u.send host setup text).1 = .output lines →
        IsAnswer after lines) := by
  have hline : Breakless (s.inbox.pending ++ chunks.flatten) := by
    rw [hchunks]
    exact breakless_encode fun c hc => hprompt.not_isLineBreak hc
  rw [pending_deliverAll setup.width hcurrent hline] at hkept
  have hsuffix : leftOver setup.width s.inbox chunks <:+ encode prompt :=
    hchunks ▸ leftOver_suffix setup.width s.inbox chunks
  rw [← hkept] at hsuffix ⊢
  -- the text that is sent is trimmed, and not blank
  have htrimmed : (trimmed text).toList = trim text.toList := String.toList_ofList
  have hprintable : ∀ c ∈ (trimmed text).toList, isControl c = false := by
    rw [htrimmed]
    exact fun c hc => htext c (mem_of_mem_trim hc)
  have hheard : trim (readText u.inbox.pending ++ (trimmed text).toList) ≠ [] := by
    intro hnil
    rw [htrimmed] at hnil
    refine hnonempty ?_
    rw [← trim_trim, trim_eq_nil_iff]
    exact fun c hc => trim_eq_nil_iff.mp hnil c (List.mem_append_right _ hc)
  obtain ⟨password, hsend⟩ := hattends.send_eq host setup text
  rw [← htrimmed] at hecho
  obtain ⟨before, kind, after, htrace, hbefore, hkind⟩ := trace_sendThrough_echo host setup password
    hprompt hsuffix hattends hprintable hheard hecho
  rw [htrimmed] at htrace hkind
  have hblank : kind = .echo ↔ ∀ c ∈ readText u.inbox.pending, isBlank c = true := by
    rw [hkind, trimmed, String.ofList_inj, eq_comm]
    exact trim_append_eq_iff (trim_trim _) hnonempty
  rw [hsend]
  refine ⟨before, _, kind, after, htrace, hbefore, rfl, hblank, fun hdropped lines hsent => ?_⟩
  rw [hdropped] at htrace
  obtain ⟨hgather, hnone⟩ := gather_echo hbefore _
  exact isAnswer_sendThrough host setup u connection password (trimmed text) hsent htrace
    (List.append_cons _ _ _) hgather hnone

/-- A scripted session that lists files. -/
def listing : Session HostScript :=
  connectedTo
    [{ line := "ls", play := HostScript.playText ["ls\r\nnotes.txt\r\ndeploy@box:~$ "] }]

/-- That session after one more prompt, with its colour reset behind it, that comes in chunks. -/
def promptedIn (chunks : List String) : Session HostScript :=
  listing.deliverAll scriptedSetup.width
    (chunksThrough 0 (chunks.map fun text => text.toUTF8.toList))

/-- A prompt that is cut right before its blank and its colour reset leaves only them, and the echo
is dropped. -/
theorem send_echo_iff_cut_before_reset :
    let prompt := "deploy@box:~$ \x1b[0m".toList
    let chunks := ["deploy@box:~$", " \x1b[0m"].map fun text => text.toUTF8.toList
    let u := promptedIn ["deploy@box:~$", " \x1b[0m"]
    IsDecorated prompt ∧ listing.handlers[0]? = some listing.inbox.generation ∧
      listing.inbox.pending ++ chunks.flatten = encode prompt ∧ Attends u 0 ∧
      (∀ c ∈ "ls".toList, isControl c = false) ∧ trim "ls".toList ≠ [] ∧
      (scripted.firstAnswer scriptedSetup 0 (trimmed "ls") u.world =
        some ⟨0, .data (encode (trim "ls".toList) ++
          13 :: 10 :: "notes.txt\r\ndeploy@box:~$ ".toUTF8.toList)⟩) ∧
      (u.send scripted scriptedSetup "ls").1 = .output ["notes.txt"] ∧
      ∃ before line kind after,
        (u.send scripted scriptedSetup "ls").2.trace = u.trace ++ (before ++ .heard line kind ::
          ((u.begun scriptedSetup (trimmed "ls")).inbox.display scriptedSetup.width line kind ++
            after)) ∧
        (∀ a ∈ before, IsSending a) ∧ kind = .echo ∧ IsAnswer after ["notes.txt"] := by
  intro prompt chunks u
  have hprompt : IsDecorated prompt := by
    have hreset : IsSequence IsInline [escapeChar, '[', '0', 'm'] :=
      .parameters ['0'] 'm' (List.all_iff_forall_prop.mp (by decide +kernel)) (by decide +kernel)
    have hrest : IsDecorated ([escapeChar, '[', '0', 'm'] ++ []) := .sequence hreset .nil
    have hsame : prompt = "deploy@box:~$ ".toList ++ ([escapeChar, '[', '0', 'm'] ++ []) := by
      decide +kernel
    rw [hsame]
    exact isDecorated_append (List.all_iff_forall_prop.mp (by decide +kernel)) hrest
  have hcurrent : listing.handlers[0]? = some listing.inbox.generation := by decide +kernel
  have hchunks : listing.inbox.pending ++ chunks.flatten = encode prompt := by decide +kernel
  have hattends : Attends u 0 :=
    ⟨by decide +kernel, by decide +kernel, by decide +kernel, by decide +kernel⟩
  have htext : ∀ c ∈ "ls".toList, isControl c = false :=
    List.all_iff_forall_prop.mp (by decide +kernel)
  have hnonempty : trim "ls".toList ≠ [] := by decide +kernel
  have hecho : scripted.firstAnswer scriptedSetup 0 (trimmed "ls") u.world =
      some ⟨0, .data (encode (trim "ls".toList) ++
        13 :: 10 :: "notes.txt\r\ndeploy@box:~$ ".toUTF8.toList)⟩ := by decide +kernel
  have hsent : (u.send scripted scriptedSetup "ls").1 = .output ["notes.txt"] := by decide +kernel
  obtain ⟨before, line, kind, after, htrace, hbefore, -, hkind, hanswer⟩ :=
    send_echo_iff scripted scriptedSetup hprompt hcurrent hchunks hattends rfl htext hnonempty hecho
  have hblank : ∀ c ∈ readText (leftOver scriptedSetup.width listing.inbox chunks),
      isBlank c = true := List.all_iff_forall_prop.mp (by decide +kernel)
  exact ⟨hprompt, hcurrent, hchunks, hattends, htext, hnonempty, hecho, hsent, before, line, kind,
    after, htrace, hbefore, hkind.mpr hblank, hanswer (hkind.mpr hblank) _ hsent⟩

/-- **Where a prompt is cut decides whether an echo is shown.**  The same prompt cut inside its colour
reset leaves the end of that before the echo, which is shown and returned as output. -/
theorem echo_shown_after_cut_reset :
    ((promptedIn ["deploy@box:~$ \x1b[0m"]).send scripted scriptedSetup "ls").1 =
        .output ["notes.txt"] ∧
      ((promptedIn ["deploy@box:~$ \x1b", "[0m"]).send scripted scriptedSetup "ls").1 =
        .output ["[0mls", "notes.txt"] ∧
      .shown (.line "[0mls") ∈
        ((promptedIn ["deploy@box:~$ \x1b", "[0m"]).send scripted scriptedSetup "ls").2.trace := by
  decide +kernel

end Session

end ScriptedShell.Remote
