/-
# Lines that copy files

Of the two places on a line that copies a file, the order says which way the file goes, and nothing
else: with the places the other way round the line is refused for the same reason or asks for the
same copy in the other direction (`ofLine_of_swapped`).  A remote place is taken apart at a colon
and an `@`, and what the copying program is told is put together again: it is the place as it was
written, with the default user in front where none is named (`isOperandOf_of_splitRemote`).
-/
import Mathlib
import ScriptedShell.Proofs.Remote.Endpoints
import ScriptedShell.Remote.Copy

namespace ScriptedShell.Remote

open Text Command

/-! ## The other way round -/

/-- The other direction. -/
def Direction.reverse : Direction → Direction
  | .upload => .download
  | .download => .upload

/-- The same transfer in the other direction. -/
def TransferSpec.reversed (spec : TransferSpec) : TransferSpec :=
  { spec with direction := spec.direction.reverse }

/-- Of two places exactly one must be remote, and the first one is where the file goes. -/
theorem placesOf_cons_cons (first second : String) (more : List String) :
    placesOf (first :: second :: more) =
      if isRemotePlace first then
        if isRemotePlace second then .error .missingLocalPath else .ok (.upload, first, second)
      else if isRemotePlace second then .ok (.download, second, first)
      else .error .missingRemotePath := by
  unfold placesOf
  cases hfirst : isRemotePlace first <;> cases hsecond : isRemotePlace second <;>
    simp [hfirst, hsecond]

/-- Two places are the remote and the local one whatever their order, which says the direction. -/
theorem placesOf_swap (first second : String) (more more' : List String) :
    placesOf (second :: first :: more') =
      (placesOf (first :: second :: more)).map fun (direction, places) =>
        (direction.reverse, places) := by
  rw [placesOf_cons_cons, placesOf_cons_cons]
  cases isRemotePlace first <;> cases isRemotePlace second <;> rfl

/-- Which of two places is the remote one, and the direction. -/
theorem placesOf_eq_ok {first second : String} {more : List String} {direction : Direction}
    {remote localPath : String}
    (h : placesOf (first :: second :: more) = .ok (direction, remote, localPath)) :
    (direction = .upload ∧ first = remote ∧ second = localPath ∨
        direction = .download ∧ first = localPath ∧ second = remote) ∧
      isRemotePlace remote = true ∧ isRemotePlace localPath = false := by
  rw [placesOf_cons_cons] at h
  split_ifs at h with hfirst hsecond hsecond
  · cases h
    exact ⟨.inl ⟨rfl, rfl, rfl⟩, hfirst, Bool.eq_false_iff.mpr hsecond⟩
  · cases h
    exact ⟨.inr ⟨rfl, rfl, rfl⟩, hsecond, Bool.eq_false_iff.mpr hfirst⟩

/-- A line with its places the other way round and the same values of flags asks for the same
transfer in the other direction. -/
theorem ofLine_of_places {settings : RemoteSettings} {line line' : Line}
    (hplaces : placesOf line'.positionals = (placesOf line.positionals).map
      fun (direction, places) => (direction.reverse, places))
    (hvalues : ∀ flag, line'.valueOf? flag = line.valueOf? flag) :
    TransferSpec.ofLine settings line' =
      (TransferSpec.ofLine settings line).map TransferSpec.reversed := by
  have hpassword : passwordOf line' = passwordOf line := by rw [passwordOf, hvalues, passwordOf]
  have hport : portOf line' settings.defaultPort = portOf line settings.defaultPort := by
    rw [portOf, hvalues, portOf]
  unfold TransferSpec.ofLine
  rw [hplaces, hpassword, hport]
  cases placesOf line.positionals with
  | error fault => rfl
  | ok found =>
    obtain ⟨direction, remote, localPath⟩ := found
    show (splitRemote remote >>= _) = Except.map _ (splitRemote remote >>= _)
    cases splitRemote remote with
    | error fault => rfl
    | ok parts =>
      cases passwordOf line with
      | error fault => rfl
      | ok password =>
        cases portOf line settings.defaultPort with
        | error fault => rfl
        | ok port => rfl

/-! ## The places on a line -/

/-- The parts that the words behind the two places make. -/
def optionParts (options : List String) : List Command.Part :=
  (groupWords .valueDashButNotMarked options).mapIdx fun i words => ⟨i + 3, words⟩

section Words

variable {text first second : String} {options : List String}

/-- The places are two parts of their own. -/
theorem arguments_transfer (hfirst : startsWith first "-" = false)
    (hsecond : startsWith second "-" = false)
    (hwords : wordsOf text = "scp" :: first :: second :: options) :
    (Line.parse .builtin text).arguments =
      ⟨1, [first]⟩ :: ⟨2, [second]⟩ :: optionParts options := by
  have hkeyword : Keyword.ofWord "scp" = .transfer := by decide +kernel
  have hpolicy : PolicyTable.builtin .transfer = ⟨.valueDashButNotMarked, 0⟩ := rfl
  have halone : ∀ {word : String}, startsWith word "-" = false →
      CaptureRule.accepts .valueDashButNotMarked word = false := by
    intro word hword
    simp [CaptureRule.accepts, hword]
  rw [Line.arguments, Line.parse, wordsOf_trimmed, hwords, groupLine_cons, hkeyword, hpolicy,
    List.take_zero, List.drop_zero, groupWords_cons_of_not_accepts (halone hfirst),
    groupWords_cons_of_not_accepts (halone hsecond)]
  simp only [List.map_nil, List.nil_append, List.cons_append, List.mapIdx_cons,
    List.drop_succ_cons, List.drop_zero]
  rfl

/-- The two places come first among the words without a value. -/
theorem positionals_transfer (hfirst : startsWith first "-" = false)
    (hsecond : startsWith second "-" = false)
    (hwords : wordsOf text = "scp" :: first :: second :: options) :
    ∃ more, (Line.parse .builtin text).positionals = first :: second :: more := by
  rw [Line.positionals, arguments_transfer hfirst hsecond hwords]
  exact ⟨_, rfl⟩

/-- The places are no values of flags. -/
theorem valueOf?_transfer (hfirst : startsWith first "-" = false)
    (hsecond : startsWith second "-" = false)
    (hwords : wordsOf text = "scp" :: first :: second :: options) (flag : String) :
    (Line.parse .builtin text).valueOf? flag =
      ((optionParts options).find? fun part => part.hasKey flag).map Part.value := by
  rw [Line.valueOf?, arguments_transfer hfirst hsecond hwords]
  rfl

/-- **A line with its places the other way round** is refused for the same reason or asks for the
same transfer in the other direction. -/
theorem ofLine_of_swapped (settings : RemoteSettings) {text' : String}
    (hfirst : startsWith first "-" = false) (hsecond : startsWith second "-" = false)
    (hwords : wordsOf text = "scp" :: first :: second :: options)
    (hwords' : wordsOf text' = "scp" :: second :: first :: options) :
    TransferSpec.ofLine settings (Line.parse .builtin text') =
      (TransferSpec.ofLine settings (Line.parse .builtin text)).map TransferSpec.reversed := by
  apply ofLine_of_places
  · obtain ⟨more, hpositionals⟩ := positionals_transfer hfirst hsecond hwords
    obtain ⟨more', hpositionals'⟩ := positionals_transfer hsecond hfirst hwords'
    rw [hpositionals, hpositionals', placesOf_swap]
  · intro flag
    rw [valueOf?_transfer hfirst hsecond hwords, valueOf?_transfer hsecond hfirst hwords']

end Words

/-! ## Remote places put together again -/

/-- Whether an argument names a user: what stands before its first colon is a text without `@`,
which is not empty, then an `@`, and anything. -/
def NamesUser (argument : String) : Prop :=
  ∃ user host, argument.toList.takeWhile (· != ':') = user ++ '@' :: host ∧ user ≠ [] ∧ '@' ∉ user

/-- A text without an `@` at its front, if there is one. -/
def withoutAt (text : String) : String :=
  match text.toList with
  | '@' :: rest => String.ofList rest
  | _ => text

/-- Whether a program is told an argument as it was written, or with the default user in front of it
where it names none. -/
structure IsOperandOf (defaultUser argument operand : String) : Prop where
  named : NamesUser argument → operand = argument
  unnamed : ¬ NamesUser argument → operand = defaultUser ++ "@" ++ withoutAt argument

section Operands

variable {argument address path : String}

/-- A remote place that is taken apart is its address, a colon and its path, and the colon is the
first one. -/
theorem toList_of_splitRemote (h : splitRemote argument = .ok (address, path)) :
    argument.toList = address.toList ++ ':' :: path.toList ∧ ':' ∉ address.toList ∧
      address.toList ≠ [] := by
  unfold splitRemote at h
  split at h
  · next front back hcut =>
    split_ifs at h with hhost hpath
    obtain ⟨rfl, rfl⟩ := Prod.mk.inj (Except.ok.inj h)
    obtain ⟨hsplit, hcolon⟩ := cutFirst_eq_some_iff.mp hcut
    rw [String.toList_ofList, String.toList_ofList]
    refine ⟨hsplit, hcolon, ?_⟩
    rintro rfl
    exact hhost rfl
  · cases h

/-- What stands before the first colon of a remote place is its address. -/
theorem takeWhile_of_splitRemote (h : splitRemote argument = .ok (address, path)) :
    argument.toList.takeWhile (· != ':') = address.toList := by
  obtain ⟨hsplit, hcolon, -⟩ := toList_of_splitRemote h
  have hbefore : ∀ c ∈ address.toList, (c != ':') = true := by
    intro c hc
    have hne : c ≠ ':' := ne_of_mem_of_not_mem hc hcolon
    simpa using hne
  rw [hsplit, List.takeWhile_append_of_pos hbefore, List.takeWhile_cons_of_neg (by simp),
    List.append_nil]

/-- A remote place names a user when something stands before the first `@` of its address. -/
theorem namesUser_iff (h : splitRemote argument = .ok (address, path)) :
    NamesUser argument ↔
      ∃ user host, cutFirst '@' address.toList = some (user, host) ∧ user ≠ [] := by
  simp only [NamesUser, takeWhile_of_splitRemote h, cutFirst_eq_some_iff]
  constructor
  · rintro ⟨user, host, heq, hne, hat⟩
    exact ⟨user, host, ⟨heq, hat⟩, hne⟩
  · rintro ⟨user, host, ⟨heq, hat⟩, hne⟩
    exact ⟨user, host, heq, hne, hat⟩

/-- A text without an `@` at its front stays as it is. -/
theorem withoutAt_eq_self {text : String} (h : ∀ rest, text.toList ≠ '@' :: rest) :
    withoutAt text = text := by
  unfold withoutAt
  split
  · next rest heq => exact absurd heq (h rest)
  · rfl

/-- **A remote place is put together as it was written**, with the default user in front where it
names none. -/
theorem isOperandOf_of_splitRemote (h : splitRemote argument = .ok (address, path))
    (password defaultUser : String) (port : Nat) :
    IsOperandOf defaultUser argument
      (remoteOperand (.ofAddress address password port defaultUser) path) := by
  obtain ⟨hsplit, -, hne⟩ := toList_of_splitRemote h
  have hnames := namesUser_iff h
  unfold Endpoint.ofAddress
  cases hcut : cutFirst '@' address.toList with
  | none =>
    have hunnamed : ¬ NamesUser argument := by rw [hnames, hcut]; simp
    have hkept : withoutAt argument = argument := by
      refine withoutAt_eq_self fun rest heq => ?_
      obtain ⟨c, cs, hcons⟩ := List.exists_cons_of_ne_nil hne
      rw [hsplit, hcons, List.cons_append] at heq
      obtain ⟨rfl, -⟩ := List.cons.inj heq
      exact cutFirst_eq_none_iff.mp hcut (by simp [hcons])
    refine ⟨fun hnamed => absurd hnamed hunnamed, fun _ => ?_⟩
    rw [hkept, ← String.toList_inj]
    simp [remoteOperand, Endpoint.destination, hsplit]
  | some parts =>
    obtain ⟨user, host⟩ := parts
    obtain ⟨haddress, -⟩ := cutFirst_eq_some_iff.mp hcut
    cases user with
    | nil =>
      have hunnamed : ¬ NamesUser argument := by rw [hnames, hcut]; simp
      have hkept : withoutAt argument = String.ofList (host ++ ':' :: path.toList) := by
        unfold withoutAt
        rw [hsplit, haddress]
        rfl
      refine ⟨fun hnamed => absurd hnamed hunnamed, fun _ => ?_⟩
      rw [hkept, ← String.toList_inj]
      simp [remoteOperand, Endpoint.destination]
    | cons c user =>
      have hnamed : NamesUser argument :=
        hnames.mpr ⟨c :: user, host, hcut, List.cons_ne_nil c user⟩
      refine ⟨fun _ => ?_, fun hunnamed => absurd hnamed hunnamed⟩
      rw [← String.toList_inj]
      simp [remoteOperand, Endpoint.destination, hsplit, haddress]

end Operands

/-- The two places are the last arguments of the program that copies, the source before the
destination. -/
theorem suffix_copyArguments (settings : RemoteSettings) (spec : TransferSpec) (path : String) :
    let operand := remoteOperand spec.endpoint spec.remotePath
    let arguments := copyArguments settings { spec with localPath := path }
    (spec.direction = .upload → [path, operand] <:+ arguments) ∧
      (spec.direction = .download → [operand, path] <:+ arguments) := by
  intro operand arguments
  constructor
  · intro h
    unfold arguments copyArguments
    rw [h]
    exact List.suffix_append _ _
  · intro h
    unfold arguments copyArguments
    rw [h]
    exact List.suffix_append _ _

/-- **A copy either way.**  Under the builtin policies a line that copies a file and the line with
its two places the other way round are refused for the same reason, or they ask for the same copy
in opposite directions.  The program that copies is told the remote place as it was written, or with
the default user in front where it names none, and this and the local path, in whatever directory
that is looked for, are its last arguments, the source before the destination. -/
theorem copy_either_way (settings : RemoteSettings) {text text' first second : String}
    {options : List String} (hfirst : startsWith first "-" = false)
    (hsecond : startsWith second "-" = false)
    (hwords : wordsOf text = "scp" :: first :: second :: options)
    (hwords' : wordsOf text' = "scp" :: second :: first :: options) :
    (∃ fault, TransferSpec.ofLine settings (Line.parse .builtin text) = .error fault ∧
        TransferSpec.ofLine settings (Line.parse .builtin text') = .error fault) ∨
      ∃ spec remote, TransferSpec.ofLine settings (Line.parse .builtin text) = .ok spec ∧
        TransferSpec.ofLine settings (Line.parse .builtin text') = .ok spec.reversed ∧
        (spec.direction = .upload ∧ first = remote ∧ second = spec.localPath ∨
          spec.direction = .download ∧ first = spec.localPath ∧ second = remote) ∧
        isRemotePlace remote = true ∧ isRemotePlace spec.localPath = false ∧
        let operand := remoteOperand spec.endpoint spec.remotePath
        IsOperandOf settings.defaultUser remote operand ∧
          ∀ path, let arguments := copyArguments settings { spec with localPath := path }
            (spec.direction = .upload → [path, operand] <:+ arguments) ∧
              (spec.direction = .download → [operand, path] <:+ arguments) := by
  have hswapped := ofLine_of_swapped settings hfirst hsecond hwords hwords'
  cases hspec : TransferSpec.ofLine settings (Line.parse .builtin text) with
  | error fault =>
    rw [hspec] at hswapped
    exact .inl ⟨fault, rfl, hswapped⟩
  | ok spec =>
    rw [hspec] at hswapped
    obtain ⟨direction, remote, localPath, address, remotePath, password, port, hplaces, hsplit, -,
      -, rfl⟩ := TransferSpec.ofLine_eq_ok_iff.mp hspec
    obtain ⟨more, hpositionals⟩ := positionals_transfer hfirst hsecond hwords
    rw [hpositionals] at hplaces
    obtain ⟨horder, hremote, hlocal⟩ := placesOf_eq_ok hplaces
    exact .inr ⟨_, remote, rfl, hswapped, horder, hremote, hlocal,
      isOperandOf_of_splitRemote hsplit password settings.defaultUser port,
      suffix_copyArguments settings _⟩

/-- A place with several colons and `@`, the first of which names no user, and a drive letter. -/
theorem copy_either_way_driveLetter :
    let there := "scp C:\\f.bin @a@box:/r:x -#p hunter2 -p 2200"
    let back := "scp @a@box:/r:x  C:\\f.bin -#p hunter2 -p 2200"
    let spec : TransferSpec :=
      ⟨.download, ⟨"a@box", 2200, "root", "hunter2"⟩, "C:\\f.bin", "/r:x"⟩
    TransferSpec.ofLine {} (Line.parse .builtin there) = .ok spec ∧
      TransferSpec.ofLine {} (Line.parse .builtin back) = .ok spec.reversed ∧
      IsOperandOf "root" "@a@box:/r:x" "root@a@box:/r:x" ∧
      ["root@a@box:/r:x", "/l/f.bin"] <:+
        copyArguments {} { spec with localPath := "/l/f.bin" } := by
  intro there back spec
  have hspec : TransferSpec.ofLine {} (Line.parse .builtin there) = .ok spec := by decide +kernel
  have hwords : wordsOf there =
      "scp" :: "C:\\f.bin" :: "@a@box:/r:x" :: ["-#p", "hunter2", "-p", "2200"] := by decide +kernel
  have hwords' : wordsOf back =
      "scp" :: "@a@box:/r:x" :: "C:\\f.bin" :: ["-#p", "hunter2", "-p", "2200"] := by decide +kernel
  obtain ⟨fault, herror, -⟩ | ⟨spec', remote, hthere, hback, horder, -, -, hoperand, harguments⟩ :=
    copy_either_way {} (by decide) (by decide) hwords hwords'
  · rw [hspec] at herror
    cases herror
  · rw [hspec] at hthere
    obtain rfl := Except.ok.inj hthere
    obtain ⟨hupload, -⟩ | ⟨-, -, rfl⟩ := horder
    · cases hupload
    · exact ⟨hspec, hback, hoperand, (harguments "/l/f.bin").2 rfl⟩

end ScriptedShell.Remote
