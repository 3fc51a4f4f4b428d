/-
# Command lines

A line is cut into words and its words are grouped into parts: the command's own word, the words
that the policy of the command leaves out, and then each word together with the values that it
takes.  A word with a dash begins a part of its own.
-/
import ScriptedShell.Command.Capture
import ScriptedShell.Variable.Store

namespace ScriptedShell.Command

open Text Variable

/-! ## Parts -/

/-- A group of words and its place on the line. -/
structure Part where
  index : Nat
  words : List String
  deriving Repr, DecidableEq

/-- What a part is for. -/
inductive PartKind where
  | name
  | keyed
  | positional
  deriving Repr, DecidableEq

namespace Part

/-- The first word of a part with several words. -/
def key? (p : Part) : Option String :=
  match p.words with
  | key :: _ :: _ => some key
  | _ => none

/-- The words after the key, joined by spaces, or the only word. -/
def value (p : Part) : String :=
  match p.words with
  | _ :: second :: rest => String.intercalate " " (second :: rest)
  | [word] => word
  | [] => ""

/-- What the part is for. -/
def kind (p : Part) : PartKind :=
  if p.index = 0 then .name else if p.key?.isSome then .keyed else .positional

/-- Whether the part has this key. -/
def hasKey (p : Part) (key : String) : Bool := p.key? = some key

/-- What stands for a secret value when a line is shown. -/
def mask : String := "******"

/-- The part as it is shown: the value of a secret flag is hidden. -/
def masked (p : Part) : String :=
  match p.key? with
  | some key =>
    if startsWith key secretMarker then key ++ " " ++ mask else String.intercalate " " p.words
  | none => String.intercalate " " p.words

end Part

/-! ## Grouping -/

/-- Whether a word joins the part before it: it has no dash, and the part's first word takes a
value, being alone or under a rule that keeps capturing. -/
def joins (rule : CaptureRule) (part : List String) (word : String) : Bool :=
  !startsWith word "-" && match part with
    | [] => false
    | [key] => rule.accepts key
    | key :: _ => rule.keepsCapturing && rule.accepts key

/-- Group words, the part begun last being still open. -/
def groupFrom (rule : CaptureRule) : List String → List String → List (List String)
  | part, [] => [part]
  | part, word :: rest =>
    if joins rule part word then groupFrom rule (part ++ [word]) rest
    else part :: groupFrom rule [word] rest

/-- Group the words of a line's arguments. -/
def groupWords (rule : CaptureRule) : List String → List (List String)
  | [] => []
  | word :: rest => groupFrom rule [word] rest

/-- Group all words of a line: the command, the words left out by its policy, the others. -/
def groupLine (policies : PolicyTable) : List String → List (List String)
  | [] => []
  | name :: args =>
    let policy := policies (Keyword.ofWord name)
    [name] :: (args.take policy.skip).map (fun word => [word]) ++
      groupWords policy.rule (args.drop policy.skip)

/-! ## Lines -/

/-- A line without blanks at its ends, and its parts. -/
structure Line where
  raw : String
  parts : List Part
  deriving Repr, DecidableEq

namespace Line

/-- Read a line under given policies. -/
def parse (policies : PolicyTable) (text : String) : Line :=
  let raw := trimmed text
  ⟨raw, (groupLine policies (wordsOf raw)).mapIdx Part.mk⟩

/-- The command's own word, empty when the line is blank. -/
def name (line : Line) : String :=
  match line.parts with
  | part :: _ => part.value
  | [] => ""

/-- What the line asks for. -/
def keyword (line : Line) : Keyword :=
  match line.parts with
  | part :: _ => Keyword.ofWord part.value
  | [] => .passthrough

/-- Whether the line is a comment. -/
def isComment (line : Line) : Bool := startsWith line.raw commentMarker

/-- Whether the line has no words. -/
def isBlank (line : Line) : Bool := line.parts.isEmpty

/-- The parts after the command. -/
def arguments (line : Line) : List Part := line.parts.drop 1

/-- The arguments that take no value, in order. -/
def positionals (line : Line) : List String :=
  (line.arguments.filter fun p => p.key?.isNone).map Part.value

/-- The values of all arguments with a key, in order. -/
def valuesOf (line : Line) (key : String) : List String :=
  (line.arguments.filter fun p => p.hasKey key).map Part.value

/-- The value of the first argument with a key. -/
def valueOf? (line : Line) (key : String) : Option String :=
  (line.arguments.find? fun p => p.hasKey key).map Part.value

/-- Whether a flag stands on the line without a value. -/
def hasFlag (line : Line) (flag : String) : Bool :=
  line.arguments.any fun p => p.key?.isNone && p.value = flag

/-- The keyed arguments, with their keys. -/
def pairs (line : Line) : List (String × String) :=
  line.arguments.filterMap fun p => p.key?.map fun key => (key, p.value)

/-- The variables that the line itself declares. -/
def store (line : Line) : Store :=
  Store.ofList (line.pairs.filter fun (key, _) => startsWith key variableMarker)

/-- The line as it is shown, with secret values hidden. -/
def masked (line : Line) : String := String.intercalate " " (line.parts.map Part.masked)

end Line

end ScriptedShell.Command
