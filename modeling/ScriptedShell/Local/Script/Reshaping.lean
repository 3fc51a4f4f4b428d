/-
# Reshaping

What the extended language makes of texts: stretches of them, other texts in place of what patterns
stand for, letters of the other size, and quotes around them.
-/
import ScriptedShell.Local.Script.Fields
import ScriptedShell.Local.Script.Printing

namespace ScriptedShell.Local.Script

namespace Reshaping

/-! ## Stretches -/

/-- The stretch of something of a size from a number on: where it begins and how long it is.  A
number below zero counts from the end; `none` if the end comes before the beginning. -/
def stretch? (size : Nat) (offset : Int) (length : Option Int) : Option (Nat × Nat) :=
  let start := if offset < 0 then offset + size else offset
  if start < 0 || (size : Int) < start then some (0, 0)
  else match length with
    | none => some (start.toNat, size - start.toNat)
    | some n =>
      if 0 ≤ n then some (start.toNat, min n.toNat (size - start.toNat))
      else
        let stop := (size : Int) + n
        if stop < start then none else some (start.toNat, (stop - start).toNat)

/-- The stretch of a list. -/
def cut (range : Nat × Nat) (items : List α) : List α := (items.drop range.1).take range.2

/-! ## Replacing -/

/-- The text of a word that replaces what has been found: an ampersand that is not quoted stands for
that. -/
def replacement (found : List Char) : List Bit → List Char
  | [] => []
  | .char '&' false _ :: bits => found ++ replacement found bits
  | .char '\\' false true :: .char '&' false true :: bits => '&' :: replacement found bits
  | .char c _ _ :: bits => c :: replacement found bits
  | _ :: bits => replacement found bits

/-- The length of the longest stretch at the front of a text that marks stand for. -/
def longestFront? (marks : List Mark) (text : List Char) : Option Nat :=
  (List.range (text.length + 1)).reverse.find? fun n => matchesAll marks (text.take n)

/-- A text in which stretches that marks stand for are replaced. -/
def replaceIn (isAll : Bool) (marks : List Mark) (bits : List Bit) :
    Nat → List Char → List Char
  | 0, text => text
  | _ + 1, [] => []
  | fuel + 1, c :: cs =>
    match longestFront? marks (c :: cs) with
    | none | some 0 => c :: replaceIn isAll marks bits fuel cs
    | some n =>
      let rest := (c :: cs).drop n
      replacement ((c :: cs).take n) bits ++
        (if isAll then replaceIn isAll marks bits fuel rest else rest)

/-- A text in which the first stretch that marks stand for is replaced, or each one, or the longest
one at the front or the end. -/
def replaced (isAll : Bool) (atEnd : Option Bool) (marks : List Mark) (bits : List Bit)
    (text : List Char) : List Char :=
  match atEnd with
  | none => if marks.isEmpty then text else replaceIn isAll marks bits (text.length + 1) text
  | some false =>
    match longestFront? marks text with
    | some n => replacement (text.take n) bits ++ text.drop n
    | none => text
  | some true =>
    match (List.range (text.length + 1)).find? fun n => matchesAll marks (text.drop n) with
    | some n => text.take n ++ replacement (text.drop n) bits
    | none => text

/-! ## Letters -/

/-- A text in which the first letter, or each one, is made large or small, if marks stand for it. -/
def recased (isUpper isAll : Bool) (marks : List Mark) (text : List Char) : List Char :=
  let change := fun (c : Char) =>
    if marks.isEmpty || matchesAll marks [c] then if isUpper then c.toUpper else c.toLower
    else c
  match text with
  | [] => []
  | c :: cs => change c :: if isAll then cs.map change else cs

/-! ## Escapes -/

/-- A text whose escapes are resolved as in quotes with escapes. -/
def unescaped : Nat → List Char → List Char
  | 0, text => text
  | _ + 1, [] => []
  | fuel + 1, '\\' :: cs =>
    let (text, rest) := escapedAt cs
    text ++ unescaped fuel rest
  | fuel + 1, c :: cs => c :: unescaped fuel cs

end Reshaping

end ScriptedShell.Local.Script
