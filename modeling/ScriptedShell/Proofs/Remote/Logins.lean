/-
# Reads of a login

Whatever the program that opens a remote shell prints, and however it is read, the password is typed
once at most, a refusal before the first prompt is reported, and from the first prompt on everything
is forwarded as it is (`isSafe_start`).
-/
import Mathlib
import ScriptedShell.Proofs.Remote.Watching

namespace ScriptedShell.Remote

open Text

/-! ## Reactions -/

namespace LoginReaction

/-- What goes on to the session. -/
def forwardedBytes : LoginReaction → List UInt8
  | .forwarded bytes => bytes
  | _ => []

/-- What is typed at the program. -/
def typedText? : LoginReaction → Option String
  | .typed text => some text
  | _ => none

/-- Whether a reaction says that the host refuses the password. -/
def isDenial : LoginReaction → Bool
  | .failed (.connectFailed _ _) => true
  | _ => false

end LoginReaction

/-- All that is typed at the program. -/
def typedTexts (responses : List (List LoginReaction)) : List String :=
  responses.flatten.filterMap LoginReaction.typedText?

/-- All that goes on to the session. -/
def forwardedBytes (responses : List (List LoginReaction)) : List UInt8 :=
  responses.flatten.flatMap LoginReaction.forwardedBytes

/-- Whether a read of which this came was neither answered nor denied. -/
def isPassedOn (response : List LoginReaction) : Bool :=
  response.all fun reaction => reaction.typedText?.isNone && !reaction.isDenial

namespace LoginRead

/-- The text of a read. -/
def text (r : LoginRead) : List Char := decodeLossy r.bytes

end LoginRead

namespace Login

variable {l : Login}

/-! ## Reads one after the other -/

/-- What comes of each of the reads. -/
def responses (l : Login) (reads : List LoginRead) : List (List LoginReaction) :=
  (l.deliverAll reads).1

/-- A login after reads. -/
def after (l : Login) (reads : List LoginRead) : Login := (l.deliverAll reads).2

/-- What comes of a read, after what is to be done with it. -/
def responseTo (endpoint : Endpoint) (r : LoginRead) : LoginStep → List LoginReaction
  | .forward => [.forwarded r.bytes]
  | .answerPassword =>
    .typed (typedPassword endpoint) ::
      (r.fault?.map fun reason => .failed (.writeFailed reason)).toList
  | .denied => [.failed (.connectFailed endpoint.host refusal)]

/-- Delivering a read is looking at its text and doing what is to be done with it. -/
theorem deliver_eq (l : Login) (r : LoginRead) :
    l.deliver r = (responseTo l.endpoint r (l.watch.observe r.text).1,
      { l with watch := (l.watch.observe r.text).2 }) := by
  rw [deliver, read, LoginRead.text]
  generalize l.watch.observe (decodeLossy r.bytes) = result
  obtain ⟨step, watch⟩ := result
  cases step with
  | forward | denied => rfl
  | answerPassword => cases hfault : r.fault? <;> simp [responseTo, hfault]

/-- What comes of reads is what comes of the first one, and then what comes of the others. -/
theorem responses_cons (l : Login) (r : LoginRead) (reads : List LoginRead) :
    l.responses (r :: reads) =
      responseTo l.endpoint r (l.watch.observe r.text).1 ::
        responses { l with watch := (l.watch.observe r.text).2 } reads := by
  rw [responses, deliverAll, deliver_eq]
  rfl

/-- What comes of reads is what comes of the first ones, and then what comes of the others. -/
theorem responses_append (l : Login) (front back : List LoginRead) :
    l.responses (front ++ back) = l.responses front ++ (l.after front).responses back := by
  induction front generalizing l with
  | nil => rfl
  | cons r front ih => exact congrArg (_ :: ·) (ih _)

/-- Something comes of each read. -/
theorem length_responses (l : Login) (reads : List LoginRead) :
    (l.responses reads).length = reads.length := by
  induction reads generalizing l with
  | nil => rfl
  | cons r reads ih => exact congrArg (· + 1) (ih _)

/-- Reads change nothing but what the watch has seen. -/
theorem after_eq (l : Login) (reads : List LoginRead) :
    l.after reads = { l with watch := l.watch.after (reads.map LoginRead.text) } := by
  induction reads generalizing l with
  | nil => rfl
  | cons r reads ih =>
    have hcons : l.after (r :: reads) = (l.deliver r).2.after reads := rfl
    rw [hcons, ih, deliver_eq]
    rfl

/-- The password is typed once when it is to be given, and otherwise nothing is typed. -/
theorem filterMap_typedText?_responseTo (endpoint : Endpoint) (r : LoginRead) (step : LoginStep) :
    (responseTo endpoint r step).filterMap LoginReaction.typedText? =
      List.replicate ([step].count .answerPassword) (typedPassword endpoint) := by
  cases step with
  | forward | denied => rfl
  | answerPassword => cases hfault : r.fault? <;> simp [responseTo, hfault] <;> rfl

/-- The password is typed as often as the watch says so, and nothing else is typed. -/
theorem typedTexts_responses (l : Login) (reads : List LoginRead) :
    typedTexts (l.responses reads) =
      List.replicate (l.watch.answers (reads.map LoginRead.text)) (typedPassword l.endpoint) := by
  induction reads generalizing l with
  | nil => rfl
  | cons r reads ih =>
    have hresult : l.watch.observe r.text =
        ((l.watch.observe r.text).1, (l.watch.observe r.text).2) := rfl
    rw [List.map_cons, LoginWatch.answers_cons hresult, Nat.add_comm, List.replicate_add,
      ← filterMap_typedText?_responseTo l.endpoint r, responses_cons, typedTexts,
      List.flatten_cons, List.filterMap_append]
    exact congrArg _ (ih _)

/-- A read goes on to the session unless it is answered or denied. -/
theorem flatMap_forwardedBytes_responseTo (endpoint : Endpoint) (r : LoginRead)
    (step : LoginStep) :
    (responseTo endpoint r step).flatMap LoginReaction.forwardedBytes =
      if isPassedOn (responseTo endpoint r step) then r.bytes else [] := by
  cases step with
  | forward => exact List.append_nil r.bytes
  | denied => rfl
  | answerPassword =>
    have htyped : isPassedOn (responseTo endpoint r .answerPassword) = false := rfl
    rw [htyped]
    cases hfault : r.fault? <;> simp [responseTo, hfault, LoginReaction.forwardedBytes]

/-- What goes on to the session are the reads that are neither answered nor denied. -/
theorem forwardedBytes_responses (l : Login) (reads : List LoginRead) :
    forwardedBytes (l.responses reads) =
      ((reads.zip (l.responses reads)).filter fun x => isPassedOn x.2).flatMap
        fun x => x.1.bytes := by
  induction reads generalizing l with
  | nil => rfl
  | cons r reads ih =>
    rw [responses_cons, List.zip_cons_cons, List.filter_cons, forwardedBytes, List.flatten_cons,
      List.flatMap_append, ← forwardedBytes, ih, flatMap_forwardedBytes_responseTo]
    split_ifs <;> rfl

/-- Once the prompt has been seen, every read is forwarded as it is. -/
theorem responses_of_loggedIn (hlogged : l.watch.loggedIn = true) (reads : List LoginRead) :
    l.responses reads = reads.map fun r => [.forwarded r.bytes] := by
  induction reads with
  | nil => rfl
  | cons r reads ih =>
    have hobserve : l.watch.observe r.text = (.forward, l.watch) := if_pos hlogged
    rw [responses_cons, hobserve, ih]
    rfl

/-- From the read on in which a prompt is found, every read is forwarded as it is. -/
theorem responses_of_findsPrompt {r : LoginRead} (h : l.watch.FindsPrompt r.text)
    (reads : List LoginRead) :
    l.responses (r :: reads) = (r :: reads).map fun r => [.forwarded r.bytes] := by
  obtain ⟨hforward, hlogged⟩ := LoginWatch.observe_of_findsPrompt h
  rw [responses_cons, hforward, responses_of_loggedIn hlogged]
  rfl

/-- A refusal before the prompt has been seen is told. -/
theorem head_responses_of_refused {r : LoginRead} (hlogged : l.watch.loggedIn = false)
    (hrefused : occursIn refusal.toList r.text = true) (reads : List LoginRead) :
    (l.responses (r :: reads)).head? =
      some [.failed (.connectFailed l.endpoint.host refusal)] := by
  rw [responses_cons, LoginWatch.observe_of_refused hlogged hrefused]
  rfl

/-! ## Safety -/

/-- What is expected of a login, whatever it reads. -/
structure IsSafe (l : Login) (reads : List LoginRead) : Prop where
  /-- Something comes of each read. -/
  total : (l.responses reads).length = reads.length
  /-- The password is typed once at most, and nothing else is typed. -/
  typedOnce : typedTexts (l.responses reads) = [] ∨
    typedTexts (l.responses reads) = [typedPassword l.endpoint]
  /-- A refusal before the first prompt is reported, and the read is not forwarded. -/
  denied : ∀ front r rest, reads = front ++ r :: rest →
    ¬ l.watch.HasPrompted (front.map LoginRead.text) →
    occursIn refusal.toList r.text = true →
    (l.responses reads)[front.length]? = some [.failed (.connectFailed l.endpoint.host refusal)]
  /-- From the first prompt on, all reads are forwarded as they are. -/
  prompted : ∀ front r rest, reads = front ++ r :: rest →
    (l.after front).watch.FindsPrompt r.text →
    (l.responses reads).drop front.length = (r :: rest).map fun r => [.forwarded r.bytes]
  /-- The session gets the reads that are neither answered nor denied, and nothing else. -/
  forwarded : forwardedBytes (l.responses reads) =
    ((reads.zip (l.responses reads)).filter fun x => isPassedOn x.2).flatMap fun x => x.1.bytes
  /-- What is kept after a read is less than a line. -/
  unbroken : ∀ front rest, reads = front ++ rest →
    ∀ c ∈ (l.after front).watch.pending, isLineBreak c = false

/-- **A login is safe**, whatever the reads are and wherever typing fails. -/
theorem isSafe_start (settings : RemoteSettings) (endpoint : Endpoint) (reads : List LoginRead) :
    (Login.start settings endpoint).IsSafe reads where
  total := length_responses _ reads
  typedOnce := by
    rw [typedTexts_responses]
    rcases Nat.le_one_iff_eq_zero_or_eq_one.mp (LoginWatch.answers_le_one
      (Login.start settings endpoint).watch (reads.map LoginRead.text)) with hnone | hone
    · exact .inl (by rw [hnone]; rfl)
    · exact .inr (by rw [hone]; rfl)
  denied := by
    rintro front r rest rfl hunprompted hrefused
    have hlogged : ((Login.start settings endpoint).after front).watch.loggedIn = false := by
      rw [← Bool.not_eq_true, after_eq, LoginWatch.loggedIn_after_iff]
      rintro (hstart | hprompted)
      · cases hstart
      · exact hunprompted hprompted
    rw [responses_append, List.getElem?_append_right (length_responses _ front).le,
      length_responses, Nat.sub_self, ← List.head?_eq_getElem?,
      head_responses_of_refused hlogged hrefused, after_eq]
  prompted := by
    rintro front r rest rfl hfound
    rw [responses_append, ← length_responses, List.drop_left, responses_of_findsPrompt hfound]
  forwarded := forwardedBytes_responses _ reads
  unbroken := by
    rintro front rest rfl c hc
    rw [after_eq] at hc
    exact LoginWatch.isLineBreak_of_mem_pending (fun _ hd => absurd hd List.not_mem_nil) hc

/-- A request that is cut is answered, a refusal is reported, and what looks like a request after
the prompt is forwarded. -/
example :
    let endpoint : Endpoint := { host := "box", port := 22, user := "deploy", password := "hunter2" }
    let reads := readsOf ["deploy@box's pass", "word: ", "Permission denied\r\n",
      "Welcome\r\ndeploy@box:~$ ", "password: "]
    (Login.start {} endpoint).responses (reads.map fun bytes => { bytes }) =
      [[.forwarded reads[0]!], [.typed "hunter2\r"],
        [.failed (.connectFailed "box" "Permission denied")], [.forwarded reads[3]!],
        [.forwarded reads[4]!]] := by
  decide +kernel

end Login

end ScriptedShell.Remote
