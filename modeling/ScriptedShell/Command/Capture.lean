/-
# Capture rules

Whether a word takes the word after it as its value is decided by a rule, which each command has
for itself.  A policy is a rule and the number of words after the command's own word that are left
out of capturing.
-/
import ScriptedShell.Command.Keyword
import ScriptedShell.Text.Blank

namespace ScriptedShell.Command

open Text

/-- When a word takes values. -/
inductive CaptureRule where
  /-- Every word takes all values up to the next dash. -/
  | alwaysCapture
  /-- No word takes a value. -/
  | alwaysSingle
  /-- Words with a dash take one value. -/
  | valueMustStartWithDash
  /-- Words without a dash take one value. -/
  | valueMustNotStartWithDash
  /-- Words with a dash take one value, unless they name a variable. -/
  | valueDashButNotMarked
  /-- Words that name a variable take one value. -/
  | valueIsMarked
  /-- Words that do not name a variable take one value. -/
  | valueNotMarked
  deriving Repr, DecidableEq

namespace CaptureRule

/-- The rules in order, with the names that settings files use. -/
def table : List (String × CaptureRule) :=
  [("always_capture", alwaysCapture), ("always_single", alwaysSingle),
    ("value_must_start_with_dash", valueMustStartWithDash),
    ("value_must_not_start_with_dash", valueMustNotStartWithDash),
    ("value_dash_but_not_marked", valueDashButNotMarked), ("value_is_marked", valueIsMarked),
    ("value_not_marked", valueNotMarked)]

/-- The rule of a name. -/
def ofName? (name : String) : Option CaptureRule := table.lookup name

/-- The name of a rule. -/
def name : CaptureRule → String
  | alwaysCapture => "always_capture"
  | alwaysSingle => "always_single"
  | valueMustStartWithDash => "value_must_start_with_dash"
  | valueMustNotStartWithDash => "value_must_not_start_with_dash"
  | valueDashButNotMarked => "value_dash_but_not_marked"
  | valueIsMarked => "value_is_marked"
  | valueNotMarked => "value_not_marked"

/-- Whether a word takes a value. -/
def accepts (rule : CaptureRule) (word : String) : Bool :=
  let dashed := startsWith word "-"
  let marked := startsWith word variableMarker
  match rule with
  | alwaysCapture => true
  | alwaysSingle => false
  | valueMustStartWithDash => dashed
  | valueMustNotStartWithDash => !dashed
  | valueDashButNotMarked => dashed && !marked
  | valueIsMarked => marked
  | valueNotMarked => !marked

/-- Whether a word that has a value takes more of them. -/
def keepsCapturing (rule : CaptureRule) : Bool := rule = alwaysCapture

end CaptureRule

/-- The rule of a command and the number of words that it leaves out. -/
structure Policy where
  rule : CaptureRule
  skip : Nat := 0
  deriving Repr, DecidableEq

namespace Policy

/-- The policies that hold when nothing else is set. -/
def builtin : Keyword → Policy
  | .declare => ⟨.alwaysCapture, 0⟩
  | .passthrough | .run => ⟨.valueMustStartWithDash, 0⟩
  | .connect => ⟨.valueDashButNotMarked, 1⟩
  | .transfer => ⟨.valueDashButNotMarked, 0⟩
  | _ => ⟨.alwaysSingle, 0⟩

/-- The command that a key of the settings speaks of. -/
def keywordOfKey? (key : String) : Option Keyword :=
  if Keyword.folded key = "passthrough" then some .passthrough
  else match Keyword.ofWord key with
    | .passthrough => none
    | k => some k

end Policy

/-- A policy for each command. -/
abbrev PolicyTable := Keyword → Policy

/-- The builtin policies. -/
def PolicyTable.builtin : PolicyTable := Policy.builtin

/-- The builtin policies with some of them replaced; keys that name no command are ignored. -/
def PolicyTable.withOverrides (overrides : List (String × Policy)) : PolicyTable :=
  overrides.foldl
    (fun table (key, policy) => match Policy.keywordOfKey? key with
      | some k => fun k' => if k' = k then policy else table k'
      | none => table)
    PolicyTable.builtin

end ScriptedShell.Command
