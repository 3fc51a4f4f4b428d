/-
# Searching

Where a regular expression stands for a stretch of a text: at the first place where it does, and
there for the longest stretch.  Of the ways to stand for that stretch, the one counts that takes the
first alternatives and repeats as often as it can.
-/
import ScriptedShell.Regex.Basic

namespace ScriptedShell.Regex

open Text

/-- A text that is searched. -/
structure Subject where
  text : Array Char
  /-- Whether lines in the text have edges of their own. -/
  hasLines : Bool := false
  ignoresCase : Bool := false
  deriving Repr

/-- A place in a text, with the stretches of the groups so far. -/
structure Spot where
  place : Nat
  groups : List (Nat × Nat × Nat) := []
  deriving Repr, DecidableEq

namespace Subject

/-- Whether a set holds a character of the text. -/
def accepts (s : Subject) (set : CharSet) (c : Char) : Bool :=
  set.has c || (s.ignoresCase && (set.has c.toLower || set.has c.toUpper))

/-- Whether a character stands at a place that satisfies `p`. -/
def isAt (s : Subject) (p : Char → Bool) (place : Nat) : Bool := (s.text[place]?).any p

/-- Whether an edge is at a place. -/
def hasEdge (s : Subject) (e : Edge) (place : Nat) : Bool :=
  let before := 0 < place && s.isAt isWordChar (place - 1)
  let after := s.isAt isWordChar place
  match e with
  | .lineStart => place = 0 || (s.hasLines && s.isAt (· = '\n') (place - 1))
  | .lineEnd => place = s.text.size || (s.hasLines && s.isAt (· = '\n') place)
  | .textStart => place = 0
  | .textEnd => place = s.text.size
  | .wordStart => !before && after
  | .wordEnd => before && !after
  | .word => before != after
  | .noWord => before = after

/-- Whether the text between two places stands at a third one too. -/
def repeats (s : Subject) (start stop place : Nat) : Bool :=
  let fold := fun (c : Char) => if s.ignoresCase then c.toLower else c
  (List.range (stop - start)).all fun i =>
    match s.text[start + i]?, s.text[place + i]? with
    | some a, some b => fold a = fold b
    | _, _ => false

/-- How many characters from a place on are in a set. -/
def runLength (s : Subject) (set : CharSet) : (fuel place : Nat) → Nat
  | 0, _ => 0
  | fuel + 1, place => if s.isAt (s.accepts set) place then s.runLength set fuel (place + 1) + 1 else 0

end Subject

/-- Whether two spots differ in nothing that matters for what comes later. -/
def Spot.isLike (keepsGroups : Bool) (a b : Spot) : Bool :=
  a.place = b.place && (!keepsGroups || a.groups = b.groups)

/-- Spots without those that come again. -/
def unique (keepsGroups : Bool) (spots : List Spot) : List Spot :=
  match spots with
  | [] | [_] => spots
  | spots => (spots.foldl (fun (found : List Spot) p =>
      if found.any (p.isLike keepsGroups) then found else p :: found) []).reverse

/-- The spots that repeated steps lead to, the last one first: those that take more steps come
before those that take fewer.  `left` says how many steps are left. -/
def visit (keepsGroups : Bool) (step : Spot → List Spot) :
    (fuel : Nat) → (left : Option Nat) → List (Option Nat × Spot) × List Spot → Spot →
      List (Option Nat × Spot) × List Spot
  | 0, _, (seen, found), p => (seen, p :: found)
  | fuel + 1, left, (seen, found), p =>
    if seen.any fun (l, q) => l = left && p.isLike keepsGroups q then (seen, found)
    else
      let further := if left = some 0 then [] else (step p).filter fun q => p.place < q.place
      let (seen, found) := further.foldl (visit keepsGroups step fuel (left.map (· - 1)))
        ((left, p) :: seen, found)
      (seen, p :: found)

/-- The spots that a number of steps lead to. -/
def steps (keepsGroups : Bool) (step : Spot → List Spot) : Nat → List Spot → List Spot
  | 0, spots => spots
  | n + 1, spots => steps keepsGroups step n (unique keepsGroups (spots.flatMap step))

/-- The spots where a stretch that an expression stands for can end, the preferred ones first. -/
def ends (s : Subject) (keepsGroups : Bool) : Regex → Spot → List Spot
  | .empty, p => [p]
  | .oneOf set, p => if s.isAt (s.accepts set) p.place then [{ p with place := p.place + 1 }] else []
  | .edge e, p => if s.hasEdge e p.place then [p] else []
  | .cat a b, p => match ends s keepsGroups a p with
    | [q] => ends s keepsGroups b q
    | spots => unique keepsGroups (spots.flatMap (ends s keepsGroups b))
  | .either a b, p => unique keepsGroups (ends s keepsGroups a p ++ ends s keepsGroups b p)
  | .repeated (.oneOf set) least most, p =>
    let longest := s.runLength set (s.text.size - p.place) p.place
    let longest := (most.map (min longest)).getD longest
    ((List.range (longest + 1)).filter (least ≤ ·)).reverse.map fun n =>
      { p with place := p.place + n }
  | .repeated a least most, p =>
    let step := ends s keepsGroups a
    let left := most.map (· - least)
    let spots := steps keepsGroups step least [p]
    unique keepsGroups (spots.flatMap fun q =>
      (visit keepsGroups step (s.text.size - q.place + 1) left ([], []) q).2.reverse)
  | .group n a, p => (ends s keepsGroups a p).map fun q =>
      { q with groups := (n, p.place, q.place) :: q.groups.filter (·.1 != n) }
  | .again n, p =>
    match p.groups.lookup n with
    | some (start, stop) =>
      if s.repeats start stop p.place then [{ p with place := p.place + (stop - start) }] else []
    | none => []

/-- A stretch that has been found, with the stretches of its groups. -/
structure Found where
  start : Nat
  stop : Nat
  groups : List (Nat × Nat × Nat) := []
  deriving Repr, DecidableEq

/-- The longest stretch that begins at a place. -/
def longestAt? (r : Regex) (s : Subject) (place : Nat) : Option Found :=
  let spots := ends s r.refers r ⟨place, []⟩
  let best := spots.foldl (fun (best : Option Spot) p =>
    match best with
    | some b => if b.place < p.place then some p else some b
    | none => some p) none
  best.map fun p => ⟨place, p.place, p.groups⟩

/-- The first stretch that begins at one of some places in a row. -/
def firstFrom? (r : Regex) (s : Subject) : (count place : Nat) → Option Found
  | 0, _ => none
  | count + 1, place => (r.longestAt? s place).or (r.firstFrom? s count (place + 1))

/-- The first stretch from a place on. -/
def search? (r : Regex) (s : Subject) (place : Nat) : Option Found :=
  r.firstFrom? s (s.text.size + 1 - place) place

/-- Whether an expression stands for a stretch of a text. -/
def isIn (r : Regex) (s : Subject) : Bool := (r.search? s 0).isSome

/-- The stretch of a group; the group zero is everything. -/
def Found.group? (f : Found) (n : Nat) : Option (Nat × Nat) :=
  if n = 0 then some (f.start, f.stop) else f.groups.lookup n

/-- The text between two places. -/
def Subject.between (s : Subject) (start stop : Nat) : List Char :=
  (s.text.extract start stop).toList

/-- The text of a group; empty if the group stands for nothing. -/
def Found.text (f : Found) (s : Subject) (n : Nat) : List Char :=
  match f.group? n with
  | some (start, stop) => s.between start stop
  | none => []

end ScriptedShell.Regex
