/-
# Endpoints

A line that opens a session is read back as it was written: the user, the host, the port and the
password that stand on it make the endpoint (`ofLine_connectLine`).  The host is looked for behind
the last `@` of an address and cut off at the first one, but when something is behind the last one
there is something behind the first one, so that every endpoint that is read has a host, a user and
a port (`isWellFormed_ofAddress`).
-/
import Mathlib
import ScriptedShell.Proofs.Command.Grouping
import ScriptedShell.Proofs.Command.Masking
import ScriptedShell.Proofs.Text.Numbers
import ScriptedShell.Proofs.Text.Searching
import ScriptedShell.Remote.TransferSpec

namespace ScriptedShell.Remote

open Text Command

/-! ## What is read off a line -/

/-- What succeeds after a step goes on from what the step has given. -/
theorem exists_of_bind_eq_ok {ε α β : Type} {x : Except ε α} {f : α → Except ε β} {b : β}
    (h : x >>= f = .ok b) : ∃ a, x = .ok a ∧ f a = .ok b := by
  cases x with
  | error fault => cases h
  | ok a => exact ⟨a, rfl, h⟩

/-- An endpoint is read off a line that has an address, a password and no port that is none. -/
theorem Endpoint.ofLine_eq_ok_iff {settings : RemoteSettings} {line : Line} {e : Endpoint} :
    Endpoint.ofLine settings line = .ok e ↔
      ∃ address password port, addressOf line = .ok address ∧ passwordOf line = .ok password ∧
        portOf line settings.defaultPort = .ok port ∧
        e = .ofAddress address password port settings.defaultUser := by
  unfold Endpoint.ofLine
  constructor
  · intro h
    obtain ⟨address, haddress, h⟩ := exists_of_bind_eq_ok h
    obtain ⟨password, hpassword, h⟩ := exists_of_bind_eq_ok h
    obtain ⟨port, hport, h⟩ := exists_of_bind_eq_ok h
    cases h
    exact ⟨address, password, port, haddress, hpassword, hport, rfl⟩
  · rintro ⟨address, password, port, haddress, hpassword, hport, rfl⟩
    rw [haddress, hpassword, hport]
    rfl

/-- A transfer is read off a line that names two places, one of them remote, a password and no port
that is none. -/
theorem TransferSpec.ofLine_eq_ok_iff {settings : RemoteSettings} {line : Line}
    {spec : TransferSpec} :
    TransferSpec.ofLine settings line = .ok spec ↔
      ∃ direction remote localPath address remotePath password port,
        placesOf line.positionals = .ok (direction, remote, localPath) ∧
        splitRemote remote = .ok (address, remotePath) ∧ passwordOf line = .ok password ∧
        portOf line settings.defaultPort = .ok port ∧
        spec = ⟨direction, .ofAddress address password port settings.defaultUser, localPath,
          remotePath⟩ := by
  unfold TransferSpec.ofLine
  constructor
  · intro h
    obtain ⟨⟨direction, remote, localPath⟩, hplaces, h⟩ := exists_of_bind_eq_ok h
    obtain ⟨⟨address, remotePath⟩, hsplit, h⟩ := exists_of_bind_eq_ok h
    obtain ⟨password, hpassword, h⟩ := exists_of_bind_eq_ok h
    obtain ⟨port, hport, h⟩ := exists_of_bind_eq_ok h
    cases h
    exact ⟨direction, remote, localPath, address, remotePath, password, port, hplaces, hsplit,
      hpassword, hport, rfl⟩
  · rintro ⟨direction, remote, localPath, address, remotePath, password, port, hplaces, hsplit,
      hpassword, hport, rfl⟩
    rw [hplaces, hpassword, hport]
    show (splitRemote remote >>= _) = _
    rw [hsplit]
    rfl

/-! ## Well-formed endpoints -/

/-- Whether an endpoint has a host, a user and a port. -/
structure Endpoint.IsWellFormed (e : Endpoint) : Prop where
  host : e.host ≠ ""
  user : e.user ≠ ""
  port : 1 ≤ e.port

/-- **An address with something behind the last `@`** has something behind the first one. -/
theorem Endpoint.isWellFormed_ofAddress {address password defaultUser : String} {port : Nat}
    (haddress : afterLast '@' address.toList ≠ []) (huser : defaultUser ≠ "") (hport : 1 ≤ port) :
    (ofAddress address password port defaultUser).IsWellFormed := by
  unfold ofAddress
  cases hcut : cutFirst '@' address.toList with
  | none =>
    refine ⟨?_, huser, hport⟩
    rintro rfl
    exact haddress rfl
  | some parts =>
    obtain ⟨user, host⟩ := parts
    obtain ⟨hsplit, -⟩ := cutFirst_eq_some_iff.mp hcut
    -- what is behind the last one is behind the first one too
    rw [hsplit, afterLast_append_cons] at haddress
    have hhost : String.ofList host ≠ "" := by
      rw [ne_eq, String.ofList_eq_empty_iff]
      rintro rfl
      exact haddress rfl
    cases user with
    | nil => exact ⟨hhost, huser, hport⟩
    | cons c user =>
      refine ⟨hhost, ?_, hport⟩
      rw [ne_eq, String.ofList_eq_empty_iff]
      exact List.cons_ne_nil c user

/-- A port that is read is at least 1 when the default one is. -/
theorem portOf_pos {line : Line} {defaultPort port : Nat} (h : portOf line defaultPort = .ok port)
    (hdefault : defaultPort ≠ 0) : 1 ≤ port := by
  unfold portOf at h
  split at h
  · cases h
    omega
  · split at h
    · cases h
      omega
    · cases h

/-! ## Lines with options -/

/-- A line that opens a session at an address, with options. -/
def connectLine (address : String) (options : List (String × String)) : String :=
  String.intercalate " " (["ssh", address] ++ options.flatMap optionWords)

section Options

variable {text address : String} {options : List (String × String)} {line : Line}

/-- How the words of a line that opens a session are grouped: the address is alone, and the flags
have their values. -/
theorem words_arguments_connect
    (hwords : wordsOf text = ["ssh", address] ++ options.flatMap optionWords)
    (hoptions : ∀ option ∈ options, IsOption .valueDashButNotMarked option) :
    (Line.parse .builtin text).arguments.map Part.words = [address] :: options.map optionWords := by
  rw [Line.arguments, Line.parse, List.map_drop, map_words_mapIdx, wordsOf_trimmed, hwords,
    groupLine_connect address hoptions]
  rfl

/-- What the parts of options hold under a flag is the value of the first option with it. -/
theorem find?_options {parts : List Command.Part}
    (hparts : parts.map Part.words = options.map optionWords) (flag : String) :
    (parts.find? fun part : Command.Part => part.hasKey flag).map Part.value =
      options.lookup flag := by
  induction options generalizing parts with
  | nil =>
    rw [List.map_nil, List.map_eq_nil_iff] at hparts
    rw [hparts]
    rfl
  | cons option options ih =>
    obtain ⟨part, rest, rfl, hpart, hrest⟩ := List.map_eq_cons_iff.mp hparts
    have hkey : part.hasKey flag = (option.1 == flag) := by
      rw [Part.hasKey, Part.key?, hpart, optionWords]
      simp [beq_eq_decide]
    have hvalue : part.value = option.2 := by
      rw [Part.value, hpart, optionWords]
      rfl
    rw [List.lookup_cons]
    by_cases hflag : option.1 = flag
    · rw [List.find?_cons_of_pos (by simp [hkey, hflag]), hflag, beq_self_eq_true,
        Option.map_some, hvalue]
    · have hne : (flag == option.1) = false := by rw [beq_eq_false_iff_ne]; exact Ne.symm hflag
      rw [List.find?_cons_of_neg (by simp [hkey, hflag]), hne]
      exact ih hrest

/-- The value of a flag is that of the first option with it. -/
theorem valueOf?_connect
    (hparts : line.arguments.map Part.words = [address] :: options.map optionWords)
    (flag : String) : line.valueOf? flag = options.lookup flag := by
  obtain ⟨first, rest, harguments, hfirst, hrest⟩ := List.map_eq_cons_iff.mp hparts
  have hkey : first.hasKey flag = false := by
    rw [Part.hasKey, Part.key?, hfirst]
    rfl
  unfold Line.valueOf?
  rw [harguments, List.find?_cons_of_neg (by rw [hkey]; exact Bool.false_ne_true)]
  exact find?_options hrest flag

/-- The address of a line is the first word after its keyword. -/
theorem addressOf_connect
    (hparts : line.arguments.map Part.words = [address] :: options.map optionWords)
    (hdash : startsWith address "-" = false) (hhost : afterLast '@' address.toList ≠ []) :
    addressOf line = .ok address := by
  obtain ⟨first, rest, harguments, hfirst, -⟩ := List.map_eq_cons_iff.mp hparts
  have hkey : first.key? = none := by
    rw [Part.key?, hfirst]
  have hvalue : first.value = address := by
    rw [Part.value, hfirst]
  unfold addressOf
  rw [harguments]
  dsimp only
  rw [hkey, hvalue, hdash]
  simp [hhost]

end Options

/-! ## Reading back what is written -/

section Written

variable {user host : String}

/-- The host is what stands after the last `@`. -/
theorem afterLast_userAtHost (hhost : '@' ∉ host.toList) :
    afterLast '@' (user ++ "@" ++ host).toList = host.toList := by
  rw [String.toList_append, String.toList_append, List.append_assoc]
  show afterLast '@' (user.toList ++ '@' :: host.toList) = _
  rw [afterLast_append_cons, afterLast_of_not_mem hhost]

/-- An address begins with a dash when its user does. -/
theorem startsWith_userAtHost (huser : user.toList ≠ []) :
    startsWith (user ++ "@" ++ host) "-" = startsWith user "-" := by
  obtain ⟨c, cs, hcons⟩ := List.exists_cons_of_ne_nil huser
  have haddress : (user ++ "@" ++ host).toList = c :: (cs ++ '@' :: host.toList) := by
    simp [hcons]
  rw [startsWith_dash_eq hcons, startsWith_dash_eq haddress]

/-- The user and the host of an address are read back. -/
theorem ofAddress_userAtHost (huser : user.toList ≠ []) (hat : '@' ∉ user.toList)
    (password defaultUser : String) (port : Nat) :
    Endpoint.ofAddress (user ++ "@" ++ host) password port defaultUser =
      ⟨host, port, user, password⟩ := by
  have haddress : (user ++ "@" ++ host).toList = user.toList ++ '@' :: host.toList := by simp
  have hcut : cutFirst '@' (user ++ "@" ++ host).toList = some (user.toList, host.toList) :=
    cutFirst_eq_some_iff.mpr ⟨haddress, hat⟩
  obtain ⟨c, cs, hcons⟩ := List.exists_cons_of_ne_nil huser
  unfold Endpoint.ofAddress
  rw [hcut, hcons]
  dsimp only
  rw [← hcons, String.ofList_toList, String.ofList_toList]

/-- Two words with an `@` between them are a word. -/
theorem isWord_userAtHost (huser : IsWord user.toList) (hhost : IsWord host.toList) :
    IsWord (user ++ "@" ++ host).toList := by
  have haddress : (user ++ "@" ++ host).toList = user.toList ++ '@' :: host.toList := by simp
  rw [haddress]
  constructor
  · simp
  · intro c hc
    rw [List.mem_append, List.mem_cons] at hc
    rcases hc with hc | rfl | hc
    · exact huser.2 c hc
    · decide
    · exact hhost.2 c hc

end Written

/-- A port that is found on a line is read back. -/
theorem portOf_of_valueOf? {line : Line} {port : Nat} (defaultPort : Nat)
    (hvalue : line.valueOf? portFlag = some (toString port)) (hpos : 1 ≤ port)
    (hmax : port ≤ maxPort) : portOf line defaultPort = .ok port := by
  obtain ⟨n, rfl⟩ := Nat.exists_eq_add_of_le' hpos
  unfold portOf
  rw [hvalue]
  dsimp only
  rw [boundedNumber_toString (n + 1) hmax]

/-- The two orders in which a line gives a password and a port. -/
def optionOrders (password : String) (port : Nat) : List (List (String × String)) :=
  [[(passwordFlag, password), (portFlag, toString port)],
    [(portFlag, toString port), (passwordFlag, password)]]

section Orders

variable {user host password : String} {port : Nat} {options : List (String × String)}

/-- Both orders are made of the option of the password and the option of the port. -/
theorem mem_of_mem_optionOrders (hoptions : options ∈ optionOrders password port)
    {option : String × String} (h : option ∈ options) :
    option = (passwordFlag, password) ∨ option = (portFlag, toString port) := by
  unfold optionOrders at hoptions
  rw [List.mem_pair] at hoptions
  rcases hoptions with rfl | rfl
  · exact List.mem_pair.mp h
  · exact (List.mem_pair.mp h).symm

/-- In both orders the password and the port are found under their flags. -/
theorem lookup_of_mem_optionOrders (hoptions : options ∈ optionOrders password port) :
    options.lookup passwordFlag = some password ∧
      options.lookup portFlag = some (toString port) := by
  have hne : (passwordFlag == portFlag) = false := by decide
  have hne' : (portFlag == passwordFlag) = false := by decide
  unfold optionOrders at hoptions
  rw [List.mem_pair] at hoptions
  rcases hoptions with rfl | rfl
  · simp [List.lookup_cons, hne']
  · simp [List.lookup_cons, hne]

/-- The options of a password and of a port are flags with values. -/
theorem isOption_of_mem_optionOrders (hdash : startsWith password "-" = false)
    (hoptions : options ∈ optionOrders password port) :
    ∀ option ∈ options, IsOption .valueDashButNotMarked option := by
  intro option h
  rcases mem_of_mem_optionOrders hoptions h with rfl | rfl
  · exact isOption_password hdash
  · exact isOption_port (startsWith_toString port)

/-- The words of a line that opens a session. -/
theorem wordsOf_connectLine (huser : IsWord user.toList) (hhost : IsWord host.toList)
    (hpassword : IsWord password.toList) (hoptions : options ∈ optionOrders password port) :
    wordsOf (connectLine (user ++ "@" ++ host) options) =
      ["ssh", user ++ "@" ++ host] ++ options.flatMap optionWords := by
  apply wordsOf_intercalate
  intro word hword
  rw [List.mem_append, List.mem_pair, List.mem_flatMap] at hword
  rcases hword with (rfl | rfl) | ⟨option, hoption, hword⟩
  · simp [IsWord, isBlank]
  · exact isWord_userAtHost huser hhost
  · unfold optionWords at hword
    rw [List.mem_pair] at hword
    rcases mem_of_mem_optionOrders hoptions hoption with rfl | rfl <;> rcases hword with rfl | rfl
    · simp [IsWord, passwordFlag, isBlank]
    · exact hpassword
    · simp [IsWord, portFlag, isBlank]
    · exact isWord_toString port

/-- **A line that opens a session is read back**, in whichever order its options stand. -/
theorem ofLine_connectLine (settings : RemoteSettings) (huser : IsWord user.toList)
    (hhost : IsWord host.toList) (hpassword : IsWord password.toList)
    (huserDash : startsWith user "-" = false) (hpasswordDash : startsWith password "-" = false)
    (huserAt : '@' ∉ user.toList) (hhostAt : '@' ∉ host.toList) (hpos : 1 ≤ port)
    (hmax : port ≤ maxPort) (hoptions : options ∈ optionOrders password port) :
    Endpoint.ofLine settings
        (Line.parse .builtin (connectLine (user ++ "@" ++ host) options)) =
      .ok ⟨host, port, user, password⟩ := by
  have hparts := words_arguments_connect (wordsOf_connectLine huser hhost hpassword hoptions)
    (isOption_of_mem_optionOrders hpasswordDash hoptions)
  obtain ⟨hlookupPassword, hlookupPort⟩ := lookup_of_mem_optionOrders hoptions
  rw [Endpoint.ofLine_eq_ok_iff]
  refine ⟨user ++ "@" ++ host, password, port, ?address, ?password, ?port, ?endpoint⟩
  case address =>
    apply addressOf_connect hparts
    · rw [startsWith_userAtHost huser.1, huserDash]
    · rw [afterLast_userAtHost hhostAt]
      exact hhost.1
  case password =>
    unfold passwordOf
    rw [valueOf?_connect hparts, hlookupPassword]
  case port =>
    apply portOf_of_valueOf? _ _ hpos hmax
    rw [valueOf?_connect hparts, hlookupPort]
  case endpoint => rw [ofAddress_userAtHost huser.1 huserAt]

end Orders

/-! ## What is accepted -/

section Accepted

variable {settings : RemoteSettings} {line : Line}

/-- An address that is accepted has something behind its last `@`. -/
theorem afterLast_of_addressOf {address : String} (h : addressOf line = .ok address) :
    afterLast '@' address.toList ≠ [] := by
  unfold addressOf at h
  split at h
  · split_ifs at h with hhost
    cases h
    simp only [Bool.and_eq_true, Bool.not_eq_true', List.isEmpty_eq_false_iff] at hhost
    exact hhost.2
  · cases h

/-- An address and a path that are split have something behind the last `@` and a path. -/
theorem nonempty_of_splitRemote {argument address path : String}
    (h : splitRemote argument = .ok (address, path)) :
    afterLast '@' address.toList ≠ [] ∧ path ≠ "" := by
  unfold splitRemote at h
  split at h
  · split_ifs at h with hhost hpath
    obtain ⟨rfl, rfl⟩ := Prod.mk.inj (Except.ok.inj h)
    rw [List.isEmpty_iff] at hhost hpath
    refine ⟨by rwa [String.toList_ofList], ?_⟩
    rwa [ne_eq, String.ofList_eq_empty_iff]
  · cases h

/-- Endpoints on lines that open a session are well-formed. -/
theorem isWellFormed_ofLine (huser : settings.defaultUser ≠ "") (hport : settings.defaultPort ≠ 0)
    {e : Endpoint} (h : Endpoint.ofLine settings line = .ok e) : e.IsWellFormed := by
  obtain ⟨address, password, port, haddress, -, hportOf, rfl⟩ := Endpoint.ofLine_eq_ok_iff.mp h
  exact Endpoint.isWellFormed_ofAddress (afterLast_of_addressOf haddress) huser
    (portOf_pos hportOf hport)

/-- Endpoints of transfers are well-formed, and their remote paths are not empty. -/
theorem isWellFormed_transfer (huser : settings.defaultUser ≠ "")
    (hport : settings.defaultPort ≠ 0) {spec : TransferSpec}
    (h : TransferSpec.ofLine settings line = .ok spec) :
    spec.endpoint.IsWellFormed ∧ spec.remotePath ≠ "" := by
  obtain ⟨direction, remote, localPath, address, remotePath, password, port, -, hsplit, -, hportOf,
    rfl⟩ := TransferSpec.ofLine_eq_ok_iff.mp h
  obtain ⟨haddress, hpath⟩ := nonempty_of_splitRemote hsplit
  exact ⟨Endpoint.isWellFormed_ofAddress haddress huser (portOf_pos hportOf hport), hpath⟩

end Accepted

/-- **Endpoints are read back, and only well-formed ones are accepted.**  Under the builtin policies
a line that opens a session gives the host, the port, the user and the password that it was written
with, in whichever order its options stand, and the endpoint is shown as the address was written.
Whatever the line and the policies that it was read under, an endpoint that is accepted has a host,
a user and a port, and a transfer has a remote path too. -/
theorem endpoints_read_back_and_wellFormed (settings : RemoteSettings) :
    (∀ (user host password : String) (port : Nat), IsWord user.toList → IsWord host.toList →
        IsWord password.toList → startsWith user "-" = false → startsWith password "-" = false →
        '@' ∉ user.toList → '@' ∉ host.toList → 1 ≤ port → port ≤ maxPort →
        ∀ options ∈ optionOrders password port, ∃ e : Endpoint,
          Endpoint.ofLine settings
              (Line.parse .builtin (connectLine (user ++ "@" ++ host) options)) = .ok e ∧
            e = ⟨host, port, user, password⟩ ∧ e.destination = user ++ "@" ++ host) ∧
      (settings.defaultUser ≠ "" → settings.defaultPort ≠ 0 → ∀ line : Line,
        (∀ e, Endpoint.ofLine settings line = .ok e → e.IsWellFormed) ∧
        ∀ spec, TransferSpec.ofLine settings line = .ok spec →
          spec.endpoint.IsWellFormed ∧ spec.remotePath ≠ "") := by
  constructor
  · intro user host password port huser hhost hpassword huserDash hpasswordDash huserAt hhostAt
      hpos hmax options hoptions
    exact ⟨⟨host, port, user, password⟩, ofLine_connectLine settings huser hhost hpassword huserDash
      hpasswordDash huserAt hhostAt hpos hmax hoptions, rfl, rfl⟩
  · intro huser hport line
    exact ⟨fun e h => isWellFormed_ofLine huser hport h,
      fun spec h => isWellFormed_transfer huser hport h⟩

/-- A line with its port before its password is read back, and of addresses with several `@` the
first one ends the user. -/
theorem endpoints_read_back_and_wellFormed_severalAt :
    let connect := Line.parse .builtin "ssh @a@box -#p hunter2"
    let transfer := Line.parse .builtin "scp f.bin deploy@a@box:/r/f.bin -#p hunter2"
    let copy : TransferSpec :=
      ⟨.download, ⟨"a@box", 22, "deploy", "hunter2"⟩, "f.bin", "/r/f.bin"⟩
    connectLine ("deploy" ++ "@" ++ "box") [(portFlag, toString 2222), (passwordFlag, "hunter2")] =
        "ssh deploy@box -p 2222 -#p hunter2" ∧
      (∃ e : Endpoint, Endpoint.ofLine {}
          (Line.parse .builtin (connectLine ("deploy" ++ "@" ++ "box")
            [(portFlag, toString 2222), (passwordFlag, "hunter2")])) = .ok e ∧
        e = ⟨"box", 2222, "deploy", "hunter2"⟩ ∧ e.destination = "deploy" ++ "@" ++ "box") ∧
      Endpoint.ofLine {} connect = .ok ⟨"a@box", 22, "root", "hunter2"⟩ ∧
      (⟨"a@box", 22, "root", "hunter2"⟩ : Endpoint).IsWellFormed ∧
      TransferSpec.ofLine {} transfer = .ok copy ∧
      copy.endpoint.IsWellFormed ∧ copy.remotePath ≠ "" := by
  have hconnect : Endpoint.ofLine {} (Line.parse .builtin "ssh @a@box -#p hunter2") =
      .ok ⟨"a@box", 22, "root", "hunter2"⟩ := by decide +kernel
  have htransfer : TransferSpec.ofLine {}
      (Line.parse .builtin "scp f.bin deploy@a@box:/r/f.bin -#p hunter2") =
      .ok ⟨.download, ⟨"a@box", 22, "deploy", "hunter2"⟩, "f.bin", "/r/f.bin"⟩ := by decide +kernel
  obtain ⟨hback, haccepted⟩ := endpoints_read_back_and_wellFormed {}
  refine ⟨by decide +kernel, ?written, hconnect, ?connect, htransfer, ?transfer⟩
  case written =>
    exact hback "deploy" "box" "hunter2" 2222 (by simp [IsWord, isBlank])
      (by simp [IsWord, isBlank]) (by simp [IsWord, isBlank]) (by decide) (by decide) (by decide)
      (by decide) (by decide) (by decide) _ (List.mem_pair.mpr (.inr rfl))
  case connect => exact (haccepted (by decide) (by decide) _).1 _ hconnect
  case transfer => exact (haccepted (by decide) (by decide) _).2 _ htransfer

end ScriptedShell.Remote
