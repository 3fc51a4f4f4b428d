/-
# Alternation

Patterns in which a sign before brackets says how often one of the patterns between them stands for
the next stretch of a text: once, at most once, any number of times, at least once, or never.
-/
import ScriptedShell.Local.Script.Pattern

namespace ScriptedShell.Local.Script

namespace Alternation

/-- Whether a character begins an alternation when a bracket follows it. -/
def isSign (c : Char) : Bool := "?*+@!".toList.elem c

/-- The patterns up to the closing bracket, and the marks after it: `depth` brackets inside are open,
and the pattern that is read and those before it are given, the last mark of each and the last of
them first. -/
def parts : (depth : Nat) → (part : List Mark) → (done : List (List Mark)) → List Mark →
    Option (List (List Mark) × List Mark)
  | _, _, _, [] => none
  | depth, part, done, m :: rest =>
    if m = ⟨'(', true⟩ then parts (depth + 1) (m :: part) done rest
    else if m = ⟨')', true⟩ then
      match depth with
      | 0 => some ((part.reverse :: done).reverse, rest)
      | depth + 1 => parts depth (m :: part) done rest
    else if m = ⟨'|', true⟩ && depth = 0 then parts 0 [] (part.reverse :: done) rest
    else parts depth (m :: part) done rest

/-- The alternation at the front of marks: its sign, its patterns and the marks after it. -/
def front? (marks : List Mark) : Option (Char × List (List Mark) × List Mark) :=
  match marks with
  | ⟨c, true⟩ :: ⟨'(', true⟩ :: rest =>
    if isSign c then (parts 0 [] [] rest).map fun (patterns, rest) => (c, patterns, rest)
    else none
  | _ => none

/-- Both parts of a text for each place where it can be divided. -/
def splits (text : List Char) : List (List Char × List Char) :=
  (List.range (text.length + 1)).map fun n => text.splitAt n

mutual

/-- Whether marks stand for a text; the number bounds how many steps that takes. -/
def standsFor (fuel : Nat) (marks : List Mark) (text : List Char) : Bool :=
  match fuel with
  | 0 => false
  | fuel + 1 =>
    match front? marks with
    | some (sign, patterns, rest) =>
      (splits text).any fun (here, after) =>
        repeats fuel sign patterns here && standsFor fuel rest after
    | none =>
      match marks with
      | [] => text.isEmpty
      | m :: marks =>
        if m = ⟨'*', true⟩ then (endsOf text).any (standsFor fuel marks)
        else match text with
          | [] => false
          | c :: text =>
            if m = ⟨'?', true⟩ then standsFor fuel marks text
            else match if m = ⟨'[', true⟩ then bracket? marks else none with
              | some (has, rest) => has c && standsFor fuel rest text
              | none => m.char = c && standsFor fuel marks text

/-- Whether patterns stand for a text as often as a sign says. -/
def repeats (fuel : Nat) (sign : Char) (patterns : List (List Mark)) (text : List Char) : Bool :=
  match fuel with
  | 0 => false
  | fuel + 1 =>
    let once := patterns.any fun p => standsFor fuel p text
    match sign with
    | '@' => once
    | '?' => text.isEmpty || once
    | '!' => !once
    | '*' => text.isEmpty || once || more fuel patterns text
    | _ => once || more fuel patterns text

/-- Whether patterns stand for a first part of a text and then again for the others. -/
def more (fuel : Nat) (patterns : List (List Mark)) (text : List Char) : Bool :=
  match fuel with
  | 0 => false
  | fuel + 1 =>
    (splits text).any fun (here, after) =>
      !here.isEmpty && !after.isEmpty && (patterns.any fun p => standsFor fuel p here) &&
        repeats fuel '+' patterns after

end

/-- Whether marks stand for a whole text. -/
def matchesAll (marks : List Mark) (text : List Char) : Bool :=
  standsFor (4 * (marks.length + text.length) + 8) marks text

end Alternation

end ScriptedShell.Local.Script
