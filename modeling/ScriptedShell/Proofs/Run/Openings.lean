/-
# Lines that carry a password

A line that opens a session names an address, a password and perhaps a port.  Two lines that differ
in the password only, each of whose words is plain, are read alike: they are shown alike, ask for
the same, and stand for endpoints that differ in the password only.
-/
import Mathlib
import ScriptedShell.Proofs.Command.Masking
import ScriptedShell.Proofs.Remote.Secrecy
import ScriptedShell.Proofs.Variable.Tokenwise

namespace ScriptedShell

open Text Command Remote Variable

/-- Whether a word has no dash in front, and no brace or parenthesis that opens. -/
def IsPlain (word : String) : Prop :=
  startsWith word "-" = false ∧ '\x7b' ∉ word.toList ∧ '(' ∉ word.toList

instance (word : String) : Decidable (IsPlain word) := inferInstanceAs (Decidable (_ ∧ _ ∧ _))

/-- A plain word refers to nothing. -/
theorem IsPlain.refersToNothing {word : String} (h : IsPlain word) : RefersToNothing word :=
  ⟨h.2.1, h.2.2, not_marked_of_not_dash "@" h.1⟩

/-- The words of a line that opens a session. -/
def openingWords (address password : String) (port : Option String) : List String :=
  ["ssh", address, "-#p", password] ++ port.elim [] fun number => ["-p", number]

/-- The parts of a line that opens a session. -/
def openingParts (address password : String) (port : Option String) : List Command.Part :=
  [⟨0, ["ssh"]⟩, ⟨1, [address]⟩, ⟨2, ["-#p", password]⟩] ++
    port.elim [] fun number => [⟨3, ["-p", number]⟩]

section Opening

variable {text address password : String} {port : Option String}

/-- A line that opens a session refers to nothing when its words are plain. -/
theorem refersToNothing_openingWords (haddress : IsPlain address) (hpassword : IsPlain password)
    (hport : ∀ number ∈ port, IsPlain number) :
    ∀ word ∈ openingWords address password port, RefersToNothing word := by
  intro word hword
  rcases List.mem_append.mp hword with hword | hword
  · simp only [List.mem_cons, List.not_mem_nil, or_false] at hword
    rcases hword with rfl | rfl | rfl | rfl
    · decide
    · exact haddress.refersToNothing
    · decide
    · exact hpassword.refersToNothing
  · cases port with
    | none => cases hword
    | some number =>
      simp only [Option.elim_some, List.mem_cons, List.not_mem_nil, or_false] at hword
      rcases hword with rfl | rfl
      · decide
      · exact (hport word rfl).refersToNothing

/-- The options of a line that opens a session. -/
def openingOptions (password : String) (port : Option String) : List (String × String) :=
  ("-#p", password) :: port.elim [] fun number => [("-p", number)]

/-- The options of a line that opens a session have their values when these are plain. -/
theorem isOption_openingOptions (hpassword : IsPlain password)
    (hport : ∀ number ∈ port, IsPlain number) :
    ∀ option ∈ openingOptions password port, IsOption .valueDashButNotMarked option := by
  intro option hoption
  unfold openingOptions at hoption
  rcases List.mem_cons.mp hoption with rfl | hoption
  · exact isOption_password hpassword.1
  · cases port with
    | none => cases hoption
    | some number =>
      rw [Option.elim_some, List.mem_singleton] at hoption
      rw [hoption]
      exact isOption_port (hport number rfl).1

/-- How the words of a line that opens a session are grouped. -/
theorem parts_parse_opening (hwords : wordsOf text = openingWords address password port)
    (hpassword : IsPlain password) (hport : ∀ number ∈ port, IsPlain number) :
    (Line.parse .builtin text).parts = openingParts address password port := by
  have hoptions : openingWords address password port =
      ["ssh", address] ++ (openingOptions password port).flatMap optionWords := by
    cases port <;> rfl
  rw [Line.parse, wordsOf_trimmed, hwords, hoptions,
    groupLine_connect address (isOption_openingOptions hpassword hport)]
  cases port <;> rfl

/-- The password of a line that opens a session is the value of its flag. -/
theorem passwordOf_opening {line : Line} (hparts : line.parts = openingParts address password port) :
    passwordOf line = .ok password := by
  rw [passwordOf, Line.valueOf?, Line.arguments, hparts]
  simp [openingParts, passwordFlag, Part.hasKey, Part.key?, Part.value]

end Opening

namespace Twins

variable {σ τ : Type} (A : Twins σ τ)

/-- The same fault on two lines, or endpoints that differ in their passwords at most. -/
inductive Specs : Except SpecFault Endpoint → Except SpecFault Endpoint → Prop
  | fault (fault : SpecFault) : Specs (.error fault) (.error fault)
  | endpoint {e e' : Endpoint} (h : A.Endpoints e e') : Specs (.ok e) (.ok e')

/-- Lines of a script that are the same, or open a session with each run's password. -/
inductive Lines : String → String → Prop
  | same (text : String) : Lines text text
  | opens {text text' address : String} {port : Option String} (haddress : IsPlain address)
    (hport : ∀ number ∈ port, IsPlain number)
    (h : wordsOf text = openingWords address A.first port)
    (h' : wordsOf text' = openingWords address A.second port) : Lines text text'

/-- Lines read alike: what they ask for and how they are shown is the same, they open sessions
alike, and lines that do not open one are the same. -/
structure Commands (line line' : Line) : Prop where
  keyword : line.keyword = line'.keyword
  isBlank : line.isBlank = line'.isBlank
  isComment : line.isComment = line'.isComment
  masked : line.masked = line'.masked
  endpoint : ∀ settings, A.Specs (Endpoint.ofLine settings line) (Endpoint.ofLine settings line')
  same : line.keyword ≠ .connect → line = line'

variable {A}

/-- Equal endpoints are alike. -/
theorem endpoints_same (e : Endpoint) : A.Endpoints e e := ⟨rfl, rfl, rfl, .same e.password⟩

/-- Equal lines are read alike. -/
theorem commands_same (line : Line) : A.Commands line line where
  keyword := rfl
  isBlank := rfl
  isComment := rfl
  masked := rfl
  endpoint settings := by
    cases Endpoint.ofLine settings line with
    | error fault => exact .fault fault
    | ok e => exact .endpoint (endpoints_same e)
  same _ := rfl

/-- An address gives endpoints that differ in their passwords only. -/
theorem endpoints_ofAddress (address : String) (port : Nat) (user : String) :
    A.Endpoints (.ofAddress address A.first port user) (.ofAddress address A.second port user) := by
  rw [Endpoint.ofAddress, Endpoint.ofAddress]
  split <;> exact ⟨rfl, rfl, rfl, .passwords⟩

section Openings

variable {line line' : Line} {address : String} {port : Option String}

/-- Lines that open a session with different passwords stand for endpoints that differ in these
only. -/
theorem specs_opening (hparts : line.parts = openingParts address A.first port)
    (hparts' : line'.parts = openingParts address A.second port) (settings : RemoteSettings) :
    A.Specs (Endpoint.ofLine settings line) (Endpoint.ofLine settings line') := by
  have haddress : addressOf line = addressOf line' := by
    rw [addressOf, addressOf, Line.arguments, Line.arguments, hparts, hparts']
    rfl
  have hport : portOf line settings.defaultPort = portOf line' settings.defaultPort := by
    rw [portOf, portOf, Line.valueOf?, Line.valueOf?, Line.arguments, Line.arguments, hparts,
      hparts']
    rfl
  rw [Endpoint.ofLine, Endpoint.ofLine, haddress, hport, passwordOf_opening hparts,
    passwordOf_opening hparts']
  cases addressOf line' with
  | error fault => exact .fault fault
  | ok address =>
    cases portOf line' settings.defaultPort with
    | error fault => exact .fault fault
    | ok number => exact .endpoint (endpoints_ofAddress address number settings.defaultUser)

/-- Lines that open a session with different passwords are shown alike. -/
theorem masked_opening (hparts : line.parts = openingParts address A.first port)
    (hparts' : line'.parts = openingParts address A.second port) : line.masked = line'.masked := by
  rw [Line.masked, Line.masked, hparts, hparts']
  rfl

end Openings

/-- **Lines of a script are read alike.**  Lines that are the same, or differ in the plain passwords
that they carry, are read alike under the builtin policies, whatever is declared. -/
theorem Lines.commands {text text' : String} (h : A.Lines text text') (hfirst : IsPlain A.first)
    (hsecond : IsPlain A.second) (layers : List Store) :
    A.Commands (resolveLine .builtin (.parse .builtin text) layers)
      (resolveLine .builtin (.parse .builtin text') layers) := by
  cases h with
  | same => exact commands_same _
  | opens haddress hport hwords hwords' =>
    have hplain := refersToNothing_openingWords haddress hfirst hport
    have hplain' := refersToNothing_openingWords haddress hsecond hport
    rw [resolveLine_eq_self .builtin (by rw [hwords]; exact hplain),
      resolveLine_eq_self .builtin (by rw [hwords']; exact hplain')]
    have hparts := parts_parse_opening hwords hfirst hport
    have hparts' := parts_parse_opening hwords' hsecond hport
    have hssh : Keyword.ofWord "ssh" = .connect := by decide +kernel
    have hkeyword : (Line.parse .builtin text).keyword = .connect := by
      rw [Line.keyword, hparts]
      exact hssh
    have hkeyword' : (Line.parse .builtin text').keyword = .connect := by
      rw [Line.keyword, hparts']
      exact hssh
    exact {
      keyword := hkeyword.trans hkeyword'.symm
      isBlank := by rw [Line.isBlank, Line.isBlank, hparts, hparts']; rfl
      isComment := by
        rw [not_isComment_parse hwords (by decide), not_isComment_parse hwords' (by decide)]
      masked := masked_opening hparts hparts'
      endpoint := specs_opening hparts hparts'
      same := fun hother => absurd hkeyword hother }

/-- Lines of a script are blank alike. -/
theorem Lines.isBlankText_eq {text text' : String} (h : A.Lines text text') :
    isBlankText text = isBlankText text' := by
  cases h with
  | same => rfl
  | opens _ _ hwords hwords' =>
    rw [not_isBlankText_of_word hwords, not_isBlankText_of_word hwords']

end Twins

end ScriptedShell
