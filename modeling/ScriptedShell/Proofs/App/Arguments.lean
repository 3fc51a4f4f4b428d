/-
# How arguments reach the script

Options with their values stand before the script (`AreOptions`), and the script is all that stands
behind them, from the first argument on that is neither an option nor the value of one
(`ofArguments_eq_run_iff`).  The arguments of a script are put together to a line with single spaces
between them, and a line is cut at its blanks: the line holds the words of the arguments, and each
argument is one word of it exactly when none of them is empty or holds a blank
(`words_scriptLine_iff`).
-/
import Mathlib
import ScriptedShell.App.Arguments
import ScriptedShell.Proofs.Command.Grouping
import ScriptedShell.Proofs.Run.Places
import ScriptedShell.Proofs.Variable.Tokenwise

namespace ScriptedShell.App

open Text Command Variable

/-! ## Options -/

/-- Whether arguments are options with their values and nothing else, and what options that say
`given` say when these come behind them. -/
inductive AreOptions : Options → List String → Options → Prop
  | none (given : Options) : AreOptions given [] given
  | debug {given said : Options} {flag : String} {rest : List String} :
      Flag.ofArgument? flag = some .debug → AreOptions { given with debug := true } rest said →
      AreOptions given (flag :: rest) said
  | settings {given said : Options} {flag path : String} {rest : List String} :
      Flag.ofArgument? flag = some .settings →
      AreOptions { given with settingsPath := some path } rest said →
      AreOptions given (flag :: path :: rest) said

/-- Whether arguments can be a script: the first one, if there is one, is no option. -/
def BeginsScript (arguments : List String) : Prop :=
  ∀ first ∈ arguments.head?, Flag.ofArgument? first = none

section Reading

variable {given said : Options} {before arguments script : List String}

/-- What is read behind options with their values. -/
theorem readArguments_append (h : AreOptions given before said) (rest : List String) :
    Request.readArguments given (before ++ rest) = Request.readArguments said rest := by
  induction h with
  | none given => rfl
  | debug hflag _ ih =>
    rw [List.cons_append, Request.readArguments.eq_def]
    simp only [hflag]
    exact ih
  | settings hflag _ ih =>
    rw [List.cons_append, List.cons_append, Request.readArguments.eq_def]
    simp only [hflag]
    exact ih

/-- Arguments that can be a script are one. -/
theorem readArguments_of_beginsScript (h : BeginsScript script) (given : Options) :
    Request.readArguments given script = .run given script := by
  cases script with
  | nil => rfl
  | cons first rest =>
    have hfirst : Flag.ofArgument? first = none := h first rfl
    simp only [Request.readArguments.eq_def, hfirst]

/-- How options with their values can end: behind them stands what can be a script, an option that
asks for the help text or the version, or one without its value. -/
inductive Ends : List String → Options → Request → Prop
  | script {said : Options} {rest : List String} : BeginsScript rest → Ends rest said (.run said rest)
  | help {said : Options} {flag : String} {rest : List String} :
      Flag.ofArgument? flag = some .help → Ends (flag :: rest) said .help
  | version {said : Options} {flag : String} {rest : List String} :
      Flag.ofArgument? flag = some .version → Ends (flag :: rest) said .version
  | pathMissing {said : Options} {flag : String} :
      Flag.ofArgument? flag = some .settings → Ends [flag] said .pathMissing

/-- What is read at the end of the options. -/
theorem Ends.readArguments {rest : List String} {request : Request} (h : Ends rest said request) :
    Request.readArguments said rest = request := by
  cases h with
  | script hbegins => exact readArguments_of_beginsScript hbegins said
  | help hflag => simp only [Request.readArguments.eq_def, hflag]
  | version hflag => simp only [Request.readArguments.eq_def, hflag]
  | pathMissing hflag => simp only [Request.readArguments.eq_def, hflag]

/-- **Every list of arguments begins with options**, which end in one of four ways.  By the
recursion of the reader. -/
theorem exists_ends (given : Options) (arguments : List String) :
    ∃ before rest said request, arguments = before ++ rest ∧ AreOptions given before said ∧
      Ends rest said request := by
  fun_induction Request.readArguments given arguments with
  | case1 given => exact ⟨[], [], given, _, rfl, .none given, .script (by simp [BeginsScript])⟩
  | case2 given argument rest hflag =>
    -- the first argument that is no option begins the script
    refine ⟨[], argument :: rest, given, _, rfl, .none given, .script ?_⟩
    intro first hfirst
    obtain rfl : argument = first := by simpa using hfirst
    exact hflag
  | case3 given argument rest hflag =>
    exact ⟨[], argument :: rest, given, _, rfl, .none given, .help hflag⟩
  | case4 given argument rest hflag =>
    exact ⟨[], argument :: rest, given, _, rfl, .none given, .version hflag⟩
  | case5 given argument rest hflag ih =>
    obtain ⟨before, after, said, request, rfl, hoptions, hends⟩ := ih
    exact ⟨argument :: before, after, said, request, rfl, .debug hflag hoptions, hends⟩
  | case6 given argument hflag =>
    exact ⟨[], [argument], given, _, rfl, .none given, .pathMissing hflag⟩
  | case7 given argument hflag path rest ih =>
    obtain ⟨before, after, said, request, rfl, hoptions, hends⟩ := ih
    exact ⟨argument :: path :: before, after, said, request, rfl, .settings hflag hoptions, hends⟩

/-- **What arguments ask for** is told by what stands behind their options. -/
theorem ofArguments_eq_iff {request : Request} :
    Request.ofArguments arguments = request ↔
      ∃ before rest said, arguments = before ++ rest ∧ AreOptions {} before said ∧
        Ends rest said request := by
  constructor
  · rintro rfl
    obtain ⟨before, rest, said, request, rfl, hoptions, hends⟩ := exists_ends {} arguments
    refine ⟨before, rest, said, rfl, hoptions, ?_⟩
    rwa [Request.ofArguments, readArguments_append hoptions, hends.readArguments]
  · rintro ⟨before, rest, said, rfl, hoptions, hends⟩
    rw [Request.ofArguments, readArguments_append hoptions, hends.readArguments]

/-- **The script is what stands behind the options**, however its other arguments look. -/
theorem ofArguments_eq_run_iff :
    Request.ofArguments arguments = .run said script ↔
      ∃ before, arguments = before ++ script ∧ AreOptions {} before said ∧
        BeginsScript script := by
  rw [ofArguments_eq_iff]
  constructor
  · rintro ⟨before, rest, said', rfl, hoptions, hends⟩
    cases hends with
    | script hbegins => exact ⟨before, rfl, hoptions, hbegins⟩
  · rintro ⟨before, rfl, hoptions, hbegins⟩
    exact ⟨before, script, said, rfl, hoptions, .script hbegins⟩

end Reading

/-! ## The line of a script -/

section Line

variable (script : List String)

/-- The words of texts with single spaces between them are the words of the texts. -/
theorem wordsOf_intercalate_space (texts : List String) :
    wordsOf (String.intercalate " " texts) = texts.flatMap wordsOf := by
  have hspace : ∀ c ∈ " ".toList, isBlank c = true := by simp [isBlank]
  induction texts with
  | nil => rfl
  | cons text texts ih =>
    cases texts with
    | nil => rw [String.intercalate_singleton, List.flatMap_singleton]
    | cons second texts =>
      rw [String.intercalate_cons_cons, wordsOf, String.toList_append, String.toList_append,
        List.append_assoc, words_append_gap (by decide) hspace, List.map_append, ← wordsOf,
        ← wordsOf, ih, ← List.flatMap_cons]

/-- The words of the line of a script are its own word and the words of the arguments. -/
theorem words_scriptLine (policies : PolicyTable) :
    (Line.parse policies (scriptLine script)).parts.flatMap Part.words =
      "run" :: script.flatMap wordsOf := by
  have hrun : wordsOf "run" = ["run"] := by decide +kernel
  rw [words_parse, scriptLine, wordsOf_intercalate_space, List.flatMap_cons, hrun]
  rfl

/-- **Each argument is one word of the line** exactly when every argument is a word. -/
theorem words_scriptLine_iff (policies : PolicyTable) :
    (Line.parse policies (scriptLine script)).parts.flatMap Part.words = "run" :: script ↔
      ∀ argument ∈ script, IsWord argument.toList := by
  rw [words_scriptLine, List.cons.injEq, and_iff_right rfl]
  constructor
  · intro h argument hargument
    -- the words of arguments are words, and these are all of them
    rw [← h, List.mem_flatMap] at hargument
    obtain ⟨other, -, hword⟩ := hargument
    exact isWord_of_mem_wordsOf hword
  · intro h
    have hall : script.flatMap wordsOf = script.flatMap fun argument => [argument] :=
      List.flatMap_congr fun argument hargument => wordsOf_eq_singleton (h argument hargument)
    rw [hall, List.flatMap_singleton']

/-- In a session without variables a line stands for itself. -/
theorem resolveLine_newSession (policies : PolicyTable) (text : String) :
    resolveLine policies (.parse policies text) [{}] = .parse policies text := by
  have hnone : ∀ name, lookup name [{}] = none := fun name => rfl
  have hsame : substituteLine (.parse policies text) [{}] = (Line.parse policies text).raw := by
    refine substituteLine_eq_raw policies text fun i part position word hoccurs => ?_
    have hreferent : referent (.parse policies text) [{}] part position word = word := by
      rw [referent]
      split_ifs
      · rw [hnone]
        rfl
      · rfl
    rw [hreferent, substituteWord_unresolved fun name _ => hnone name]
  rw [resolveLine]
  exact if_pos hsame

/-- The line of a script is dispatched as it is in a new session. -/
theorem line?_scriptLine {σ : Type} (r : Run.Runner σ) (world : σ) :
    (Run.Call.line (scriptLine script)).line? r (r.newSession world) =
      some (.parse r.policies (scriptLine script)) := by
  have hwords : wordsOf (scriptLine script) = "run" :: script.flatMap wordsOf := by
    rw [← words_parse r.policies, words_scriptLine]
  have hresolved : resolveLine r.policies (.parse r.policies (scriptLine script))
      [(r.newSession world).store] = .parse r.policies (scriptLine script) :=
    resolveLine_newSession r.policies (scriptLine script)
  rw [Run.Call.line?, hresolved, not_isBlankText_of_word hwords, not_isBlank_parse hwords,
    not_isComment_parse hwords (by decide)]
  rfl

end Line

/-! ## The main statement -/

/-- **Arguments reach the script, and the line of the script holds their words.**  Every list of
arguments begins with options and their values, and what stands behind them decides: it is the
script, unless it begins with an option that asks for the help text or the version or is the option
for the settings alone.  The line of a script, which is dispatched in a new session as it is, is the
word that runs files and then the words of the arguments; each argument is one word of it exactly
when no argument is empty or holds a blank. -/
theorem arguments_reach_script {σ : Type} (r : Run.Runner σ) (world : σ)
    (arguments : List String) :
    (∃ before rest said, arguments = before ++ rest ∧ AreOptions {} before said ∧
      Ends rest said (Request.ofArguments arguments)) ∧
    (∀ said script, Request.ofArguments arguments = .run said script ↔
      ∃ before, arguments = before ++ script ∧ AreOptions {} before said ∧ BeginsScript script) ∧
    ∀ script,
      (Run.Call.line (scriptLine script)).line? r (r.newSession world) =
        some (.parse r.policies (scriptLine script)) ∧
      (Line.parse r.policies (scriptLine script)).parts.flatMap Part.words =
        "run" :: script.flatMap wordsOf ∧
      ((Line.parse r.policies (scriptLine script)).parts.flatMap Part.words = "run" :: script ↔
        ∀ argument ∈ script, IsWord argument.toList) := by
  refine ⟨ofArguments_eq_iff.mp rfl, fun said script => ofArguments_eq_run_iff, ?_⟩
  intro script
  exact ⟨line?_scriptLine script r world, words_scriptLine script r.policies,
    words_scriptLine_iff script r.policies⟩

/-- An argument with a blank in it is no word of the line any more: what stands behind the blank is
a file to run. -/
theorem argument_cut_at_blank :
    let script := ["greet.txt", "-@msg", "hello world"]
    let line := Line.parse .builtin (scriptLine script)
    Request.ofArguments script = .run {} script ∧
      line.parts.flatMap Part.words = ["run", "greet.txt", "-@msg", "hello", "world"] ∧
      line.parts.flatMap Part.words ≠ "run" :: script ∧
      Run.filesOf line = ["greet.txt", "world"] := by
  decide +kernel

end ScriptedShell.App
