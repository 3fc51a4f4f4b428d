/-
# Writing files

A text that has been written is read back where the path to it leads (`Tree.readText_of_write`),
unless the path leads to a device, which keeps nothing.  Two kinds of changes come before it: directories
are made where nothing stood, and a file is put where neither a directory nor a link stood.  Neither
of them changes the way of a walk that had an end (`Tree.Keeps.walk`).
-/
import Mathlib
import ScriptedShell.Proofs.Files.Removal
import ScriptedShell.Proofs.Text.Encoding

namespace ScriptedShell.Files.Tree

variable {t t' t'' : Tree} {current p q place : Place} {path : String} {segments : List String}
  {bytes : List UInt8} {n : Node}

/-! ## What stands where -/

/-- At a place that something has been put at it stands; elsewhere stands what stood there. -/
theorem at?_put (t : Tree) (n : Node) (hp : p ≠ []) (q : Place) :
    (t.put p n).at? q = if q = p then some n else t.at? q := by
  have hnodes : (t.put p n).nodes = (p, n) :: t.nodes.filter (·.1 != p) := rfl
  rw [at?, at?, hnodes]
  cases q with
  | nil =>
    rw [if_neg hp.symm]
    rfl
  | cons name q =>
    rw [List.isEmpty_cons, if_neg Bool.false_ne_true, if_neg Bool.false_ne_true,
      List.lookup_cons, lookup_filter_ne]
    by_cases hq : name :: q = p
    · rw [if_pos hq, if_pos hq, beq_iff_eq.mpr hq]
    · rw [if_neg hq, if_neg hq, beq_false_of_ne hq]

/-- A path leads to something when it leads to the place where that stands. -/
theorem node_eq_ok_iff :
    t.node current path = .ok (p, n) ↔ t.locate current path = .ok p ∧ t.at? p = some n := by
  rw [node]
  cases t.locate current path with
  | error fault => simp [bind, Except.bind]
  | ok q =>
    simp only [bind, Except.bind, found, Except.ok.injEq]
    cases hstands : t.at? q with
    | none =>
      constructor
      · intro h
        cases h
      · rintro ⟨rfl, hn⟩
        rw [hstands] at hn
        cases hn
    | some n' =>
      rw [Except.ok.injEq, Prod.mk.injEq]
      constructor
      · rintro ⟨rfl, rfl⟩
        exact ⟨rfl, hstands⟩
      · rintro ⟨rfl, hn⟩
        rw [hstands] at hn
        exact ⟨rfl, Option.some.inj hn⟩

/-- Whether a path leads to a device. -/
def isDevice (t : Tree) (current : Place) (path : String) : Bool :=
  match t.node current path with
  | .ok (_, .device _) => true
  | _ => false

/-! ## A step of a walk -/

/-- Whether a segment of a path is the name of something in a directory. -/
structure IsName (segment : String) : Prop where
  notStill : ¬Path.isStill segment = true
  notUp : segment ≠ ".."
  notLong : ¬maxNameBytes < segment.utf8ByteSize

/-- How a walk through a directory, along a segment and the rest of them, comes to its end. -/
inductive GoesOn (t : Tree) (onLink : Place → String → List String → Except FileFault Place)
    (follow : Bool) (place : Place) (rest : List String) (q : Place) : String → Prop
  | still {segment : String} : Path.isStill segment = true →
      t.walkWith onLink follow place rest = .ok q → GoesOn t onLink follow place rest q segment
  | up : t.walkWith onLink follow place.dropLast rest = .ok q →
      GoesOn t onLink follow place rest q ".."
  | overLink {segment target : String} : IsName segment →
      t.at? (place ++ [segment]) = some (.link target) → (follow || !rest.isEmpty) = true →
      onLink place target rest = .ok q → GoesOn t onLink follow place rest q segment
  | atLink {segment target : String} : IsName segment →
      t.at? (place ++ [segment]) = some (.link target) → ¬(follow || !rest.isEmpty) = true →
      place ++ [segment] = q → GoesOn t onLink follow place rest q segment
  | into {segment : String} : IsName segment →
      (∀ target, t.at? (place ++ [segment]) ≠ some (.link target)) →
      t.walkWith onLink follow (place ++ [segment]) rest = .ok q →
      GoesOn t onLink follow place rest q segment

section Walking

variable {onLink onLink' : Place → String → List String → Except FileFault Place} {follow : Bool}

/-- **A walk along a segment** has an end when it is in a directory and goes on to that end. -/
theorem walkWith_cons_eq_ok_iff {segment : String} {rest : List String} :
    t.walkWith onLink follow place (segment :: rest) = .ok q ↔
      t.at? place = some .directory ∧ GoesOn t onLink follow place rest q segment := by
  rw [walkWith]
  constructor
  case mp =>
    intro h
    split at h
    · cases h
    · next hplace =>
      refine ⟨hplace, ?_⟩
      by_cases hstill : Path.isStill segment = true
      · rw [if_pos hstill] at h
        exact .still hstill h
      by_cases hup : segment = ".."
      · rw [if_neg hstill, if_pos hup] at h
        exact hup ▸ .up h
      by_cases hlong : maxNameBytes < segment.utf8ByteSize
      · rw [if_neg hstill, if_neg hup, if_pos hlong] at h
        cases h
      rw [if_neg hstill, if_neg hup, if_neg hlong] at h
      have hname : IsName segment := ⟨hstill, hup, hlong⟩
      dsimp only at h
      split at h
      · next target htarget =>
        by_cases hfollow : (follow || !rest.isEmpty) = true
        · rw [if_pos hfollow] at h
          exact .overLink hname htarget hfollow h
        · rw [if_neg hfollow] at h
          exact .atLink hname htarget hfollow (Except.ok.inj h)
      · next hnone => exact .into hname hnone h
    · cases h
  case mpr =>
    rintro ⟨hplace, hgoes⟩
    rw [hplace]
    dsimp only
    cases hgoes with
    | still hstill hrest => rwa [if_pos hstill]
    | up hrest => rwa [if_neg (by decide), if_pos rfl]
    | overLink hname htarget hfollow hrest =>
      rw [if_neg hname.notStill, if_neg hname.notUp, if_neg hname.notLong, htarget]
      dsimp only
      rwa [if_pos hfollow]
    | atLink hname htarget hfollow hend =>
      rw [if_neg hname.notStill, if_neg hname.notUp, if_neg hname.notLong, htarget]
      dsimp only
      rw [if_neg hfollow, hend]
    | into hname hnone hrest =>
      rw [if_neg hname.notStill, if_neg hname.notUp, if_neg hname.notLong]
      split
      · next target htarget => exact absurd htarget (hnone target)
      · exact hrest

end Walking

/-! ## Places without links -/

/-- Whether no link stands at a place or on the way to it. -/
def IsCanonical (t : Tree) (p : Place) : Prop :=
  ∀ q, q <+: p → ∀ target, t.at? q ≠ some (.link target)

namespace IsCanonical

theorem not_link (h : t.IsCanonical p) (target : String) : t.at? p ≠ some (.link target) :=
  h p List.prefix_rfl target

/-- The way up has no links either. -/
theorem dropLast (h : t.IsCanonical p) : t.IsCanonical p.dropLast :=
  fun q hq => h q (hq.trans (List.dropLast_prefix p))

/-- One place further has no links when there is none at it. -/
theorem concat (h : t.IsCanonical p) {name : String}
    (hinner : ∀ target, t.at? (p ++ [name]) ≠ some (.link target)) :
    t.IsCanonical (p ++ [name]) := by
  intro q hq
  rcases List.prefix_concat_iff.mp hq with rfl | hq
  · exact hinner
  · exact h q hq

/-- A walk from a place without links begins at one. -/
theorem startOf (h : t.IsCanonical p) (path : String) : t.IsCanonical (startOf p path) := by
  rw [Tree.startOf]
  split_ifs
  · intro q hq target
    rw [List.prefix_nil.mp hq]
    intro hroot
    cases hroot
  · exact h

section Walking

variable {onLink : Place → String → List String → Except FileFault Place}

/-- A walk that follows links ends at a place without links. -/
theorem walkWith (hplace : t.IsCanonical place)
    (h : t.walkWith onLink true place segments = .ok q)
    (hlink : ∀ place target rest, t.IsCanonical place → onLink place target rest = .ok q →
      t.IsCanonical q) : t.IsCanonical q := by
  induction segments generalizing place with
  | nil =>
    obtain rfl : place = q := Except.ok.inj h
    exact hplace
  | cons segment rest ih =>
    obtain ⟨-, hgoes⟩ := walkWith_cons_eq_ok_iff.mp h
    cases hgoes with
    | still _ hrest => exact ih hplace hrest
    | up hrest => exact ih hplace.dropLast hrest
    | overLink _ _ _ hrest => exact hlink _ _ _ hplace hrest
    | atLink _ _ hfollow => exact absurd rfl hfollow
    | into _ hnone hrest => exact ih (hplace.concat hnone) hrest

/-- Such a walk, with a limit to the links that are followed. -/
theorem walk {links : Nat} (hplace : t.IsCanonical place)
    (h : t.walk true links place segments = .ok q) : t.IsCanonical q := by
  induction links generalizing place segments with
  | zero =>
    rw [Tree.walk] at h
    refine hplace.walkWith h ?_
    -- no link is followed any more
    intro _ _ _ _ hfailed
    cases hfailed
  | succ links ih =>
    rw [Tree.walk] at h
    exact hplace.walkWith h fun _ target _ hplace hgone => ih (hplace.startOf target) hgone

end Walking

/-- A path leads to a place without links. -/
theorem locate (hcurrent : t.IsCanonical current) (h : t.locate current path = .ok q) :
    t.IsCanonical q := by
  rw [Tree.locate, resolve] at h
  split_ifs at h
  exact (hcurrent.startOf path).walk h

end IsCanonical

/-! ## Trees in which a walk goes the same way -/

/-- Whether the directories of a tree are directories in another one, where the same links are. -/
structure Keeps (t t' : Tree) : Prop where
  directory : ∀ {q}, t.at? q = some .directory → t'.at? q = some .directory
  link : ∀ {q target}, t'.at? q = some (.link target) ↔ t.at? q = some (.link target)

section Walking

variable {onLink onLink' : Place → String → List String → Except FileFault Place}

/-- **A walk that has an end goes the same way** in a tree that keeps directories and links.  By
induction along the segments; `onLink` and `onLink'` say how the two walks go on from a link. -/
theorem Keeps.walkWith (hkeeps : Keeps t t') {follow : Bool}
    (h : t.walkWith onLink follow place segments = .ok q)
    (hlink : ∀ place target rest, onLink place target rest = .ok q →
      onLink' place target rest = .ok q) :
    t'.walkWith onLink' follow place segments = .ok q := by
  induction segments generalizing place with
  | nil => exact h
  | cons segment rest ih =>
    obtain ⟨hplace, hgoes⟩ := walkWith_cons_eq_ok_iff.mp h
    refine walkWith_cons_eq_ok_iff.mpr ⟨hkeeps.directory hplace, ?_⟩
    cases hgoes with
    | still hstill hrest => exact .still hstill (ih hrest)
    | up hrest => exact .up (ih hrest)
    | overLink hname htarget hfollow hrest =>
      exact .overLink hname (hkeeps.link.mpr htarget) hfollow (hlink _ _ _ hrest)
    | atLink hname htarget hfollow hend =>
      exact .atLink hname (hkeeps.link.mpr htarget) hfollow hend
    | into hname hnone hrest =>
      -- there is no link in the other tree either
      exact .into hname (fun target htarget => hnone target (hkeeps.link.mp htarget)) (ih hrest)

/-- Such a walk, with a limit to the links that are followed. -/
theorem Keeps.walk (hkeeps : Keeps t t') {follow : Bool} {links : Nat}
    (h : t.walk follow links place segments = .ok q) :
    t'.walk follow links place segments = .ok q := by
  induction links generalizing place segments with
  | zero =>
    rw [Tree.walk] at h ⊢
    exact hkeeps.walkWith h fun _ _ _ hfailed => hfailed
  | succ links ih =>
    rw [Tree.walk] at h ⊢
    exact hkeeps.walkWith h fun _ _ _ hgone => ih hgone

/-- A path that leads somewhere leads to the same place. -/
theorem Keeps.locate (hkeeps : Keeps t t') (h : t.locate current path = .ok q) :
    t'.locate current path = .ok q := by
  rw [Tree.locate, resolve] at h ⊢
  split_ifs at h ⊢
  exact hkeeps.walk h

end Walking

/-! ## Making directories -/

/-- Whether a tree has nothing more than another one but directories. -/
structure Grows (t t' : Tree) : Prop where
  stands : ∀ {q n}, t.at? q = some n → t'.at? q = some n
  new : ∀ {q n}, t.at? q = none → t'.at? q = some n → n = .directory

theorem Grows.refl (t : Tree) : Grows t t where
  stands h := h
  new hnone h := by
    rw [hnone] at h
    cases h

theorem Grows.trans (h : Grows t t') (h' : Grows t' t'') : Grows t t'' where
  stands hq := h'.stands (h.stands hq)
  new {q n} hnone hq := by
    cases hmiddle : t'.at? q with
    | none => exact h'.new hmiddle hq
    | some n' =>
      obtain rfl := h.new hnone hmiddle
      rw [h'.stands hmiddle] at hq
      exact (Option.some.inj hq).symm

theorem Grows.keeps (h : Grows t t') : Keeps t t' where
  directory hq := h.stands hq
  link {q target} := by
    constructor
    · intro hq
      cases hstands : t.at? q with
      | none =>
        -- what is new is a directory, and so no link
        cases h.new hstands hq
      | some n =>
        rw [h.stands hstands] at hq
        exact hq
    · exact h.stands

/-- What a path leads to is there in a tree that has more directories. -/
theorem Grows.node (h : Grows t t') (hnode : t.node current path = .ok (p, n)) :
    t'.node current path = .ok (p, n) := by
  obtain ⟨hplace, hstands⟩ := node_eq_ok_iff.mp hnode
  exact node_eq_ok_iff.mpr ⟨h.keeps.locate hplace, h.stands hstands⟩

/-- A place without links has none in a tree that has more directories. -/
theorem Grows.isCanonical (h : Grows t t') (hp : t.IsCanonical p) : t'.IsCanonical p :=
  fun q hq target hlink => hp q hq target (h.keeps.link.mp hlink)

/-- What can be read can be read in a tree that has more directories. -/
theorem Grows.read (h : Grows t t') (hread : t.read current path = .ok bytes) :
    t'.read current path = .ok bytes := by
  rw [Tree.read] at hread ⊢
  cases hnode : t.node current path with
  | error fault =>
    rw [hnode] at hread
    cases hread
  | ok found =>
    rw [hnode] at hread
    rw [h.node hnode]
    exact hread

/-- A tree grows by a directory that is made where nothing is. -/
theorem grows_put_directory (hp : t.at? p = none) : Grows t (t.put p .directory) := by
  have hne : p ≠ [] := by
    rintro rfl
    cases hp
  constructor
  · intro q n hq
    rw [at?_put t _ hne, if_neg]
    · exact hq
    · rintro rfl
      rw [hp] at hq
      cases hq
  · intro q n hnone hq
    rw [at?_put t _ hne] at hq
    split_ifs at hq
    · exact (Option.some.inj hq).symm
    · rw [hnone] at hq
      cases hq

/-- **Making directories** along segments adds nothing but directories. -/
theorem grows_of_makeAlong (h : t.makeAlong place segments = .ok t') : Grows t t' := by
  induction segments generalizing t place with
  | nil =>
    obtain rfl : t = t' := Except.ok.inj h
    exact .refl t
  | cons segment rest ih =>
    rw [makeAlong] at h
    by_cases hstill : Path.isStill segment = true
    · rw [if_pos hstill] at h
      exact ih h
    by_cases hup : segment = ".."
    · rw [if_neg hstill, if_pos hup] at h
      exact ih h
    rw [if_neg hstill, if_neg hup] at h
    dsimp only at h
    split at h
    · exact ih h
    · -- the directories are made where the link leads
      split at h
      · exact ih h
      · cases h
    · cases h
    · next hinner =>
      by_cases hlong : maxNameBytes < segment.utf8ByteSize
      · rw [if_pos hlong] at h
        cases h
      rw [if_neg hlong] at h
      exact (grows_put_directory hinner).trans (ih h)

/-- Making directories along a path adds nothing but directories. -/
theorem grows_of_makeDirectories (h : t.makeDirectories current path = .ok t') : Grows t t' := by
  rw [makeDirectories] at h
  split_ifs at h
  exact grows_of_makeAlong h

/-! ## Reading what was written -/

/-- A place that a file can be written at is where the path leads, and is no directory. -/
theorem locate_of_writable (h : t.writable current path = .ok p) :
    t.locate current path = .ok p ∧ t.at? p ≠ some .directory := by
  rw [writable] at h
  split_ifs at h with hslash
  · -- a path that ends with a slash is never written to
    simp only [bind, Except.bind] at h
    split at h <;> cases h
  · cases hplace : t.locate current path with
    | error fault =>
      rw [hplace] at h
      cases h
    | ok place =>
      rw [hplace] at h
      simp only [bind, Except.bind, pure, Except.pure] at h
      split at h
      · cases h
      · next hdirectory =>
        obtain rfl : place = p := Except.ok.inj h
        exact ⟨rfl, hdirectory⟩
      · cases h
      · cases h

/-- What is written goes to the place that the path leads to, which is no directory; a device there
keeps nothing. -/
theorem exists_of_write (h : t.write current path bytes = .ok t') :
    ∃ place, t.locate current path = .ok place ∧ t.at? place ≠ some .directory ∧
      ((∃ device, t.at? place = some (.device device) ∧ t' = t) ∨
        t' = t.put place (.file bytes)) := by
  rw [write] at h
  cases hwritable : t.writable current path with
  | error fault =>
    rw [hwritable] at h
    cases h
  | ok place =>
    obtain ⟨hplace, hdirectory⟩ := locate_of_writable hwritable
    refine ⟨place, hplace, hdirectory, ?_⟩
    rw [hwritable] at h
    simp only [bind, Except.bind] at h
    split at h
    · cases h
    · next hdevice =>
      -- the full device takes the empty text alone
      split_ifs at h
      exact .inl ⟨.full, hdevice, (Except.ok.inj h).symm⟩
    · next device _ _ hdevice => exact .inl ⟨device, hdevice, (Except.ok.inj h).symm⟩
    · exact .inr (Except.ok.inj h).symm

/-- Walks go the same way when a file is put where neither a directory nor a link is. -/
theorem keeps_put_file (hdirectory : t.at? p ≠ some .directory)
    (hlink : ∀ target, t.at? p ≠ some (.link target)) (bytes : List UInt8) :
    Keeps t (t.put p (.file bytes)) := by
  have hne : p ≠ [] := by
    rintro rfl
    exact hdirectory rfl
  constructor
  · intro q hq
    rw [at?_put t _ hne, if_neg]
    · exact hq
    · rintro rfl
      exact hdirectory hq
  · intro q target
    rw [at?_put t _ hne]
    split_ifs with heq
    · rw [heq]
      simpa using hlink target
    · exact Iff.rfl

/-- What was written is read back, unless the path leads to a device. -/
theorem read_of_write (hcurrent : t.IsCanonical current)
    (h : t.write current path bytes = .ok t') (hdevice : t'.isDevice current path = false) :
    t'.read current path = .ok bytes := by
  obtain ⟨place, hplace, hdirectory, ⟨device, hstands, rfl⟩ | rfl⟩ := exists_of_write h
  · rw [isDevice, node_eq_ok_iff.mpr ⟨hplace, hstands⟩] at hdevice
    cases hdevice
  · -- the walk to the file goes the same way after it has been put there
    have hkeeps := keeps_put_file hdirectory (hcurrent.locate hplace).not_link bytes
    have hne : place ≠ [] := by
      rintro rfl
      exact hdirectory rfl
    have hnode : (t.put place (.file bytes)).node current path = .ok (place, .file bytes) := by
      refine node_eq_ok_iff.mpr ⟨hkeeps.locate hplace, ?_⟩
      rw [at?_put t _ hne, if_pos rfl]
    rw [read, hnode]
    rfl

/-- **A text that was written is read back**, unless the path leads to a device. -/
theorem readText_of_write (hcurrent : t.IsCanonical current)
    {text : String} (h : t.write current path text.toUTF8.toList = .ok t')
    (hdevice : t'.isDevice current path = false) : t'.readText current path = .ok text := by
  rw [readText, read_of_write hcurrent h hdevice]
  simp only [bind, Except.bind, Text.toList_toUTF8, Text.decode?_encode, String.ofList_toList]
  rfl

end ScriptedShell.Files.Tree
