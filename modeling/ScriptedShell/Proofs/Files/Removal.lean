/-
# Taking files away

After a file has been taken away nothing is left where the path to it led, also when links are
followed on the way (`Tree.node_of_remove`): the walk goes the same way as before, up to the place
that is empty now.
-/
import Mathlib
import ScriptedShell.Files.Tree

namespace ScriptedShell.Files.Tree

variable {t t' : Tree} {current p q : Place} {path : String}

/-! ## What stands where -/

/-- What is found among entries without those of a place. -/
theorem lookup_filter_ne (entries : List (Place × Node)) (p q : Place) :
    (entries.filter (·.1 != p)).lookup q = if q = p then none else entries.lookup q := by
  induction entries with
  | nil => simp
  | cons entry entries ih =>
    obtain ⟨place, node⟩ := entry
    by_cases hplace : place = p
    · rw [List.filter_cons_of_neg (by simpa using hplace), ih, hplace]
      by_cases hq : q = p
      · rw [if_pos hq, if_pos hq]
      · rw [if_neg hq, if_neg hq, List.lookup_cons, beq_false_of_ne hq]
    · rw [List.filter_cons_of_pos (by simpa using hplace), List.lookup_cons, List.lookup_cons, ih]
      by_cases hq : q = place
      · simp [hq, hplace]
      · rw [beq_false_of_ne hq]

/-- At a place that has been emptied nothing stands; elsewhere stands what stood there. -/
theorem at?_erase (t : Tree) (hp : p ≠ []) (q : Place) :
    (t.erase p).at? q = if q = p then none else t.at? q := by
  rw [at?, at?]
  cases q with
  | nil => rw [if_neg hp.symm]; rfl
  | cons name q =>
    rw [List.isEmpty_cons, if_neg Bool.false_ne_true, if_neg Bool.false_ne_true]
    exact lookup_filter_ne t.nodes p (name :: q)

/-- What stands somewhere after a place has been emptied stood there before. -/
theorem at?_erase_eq_some {n : Node} (hp : p ≠ []) (h : (t.erase p).at? q = some n) :
    q ≠ p ∧ t.at? q = some n := by
  rw [at?_erase t hp] at h
  split_ifs at h with hq
  exact ⟨hq, h⟩

/-! ## Walking to an empty place -/

section Walking

variable {onLink onLink' : Place → String → List String → Except FileFault Place}

/-- A walk that begins where nothing stands ends there, if it ends. -/
theorem eq_of_walkWith_missing {follow : Bool} {place : Place} {segments : List String}
    (hplace : t.at? place = none) (h : t.walkWith onLink follow place segments = .ok q) :
    q = place := by
  cases segments with
  | nil => exact (Except.ok.inj h).symm
  | cons segment rest =>
    rw [walkWith, hplace] at h
    cases h

/-- **A walk through a tree without one place** goes wrong, or ends at that place, when the walk
that does not follow a link at its end leads there.  By induction along the segments; `onLink` and
`onLink'` say how the two walks go on from a link. -/
theorem walkWith_erase (hp : p ≠ []) {place : Place} {segments : List String}
    (h' : (t.erase p).walkWith onLink' true place segments = .ok q)
    (h : t.walkWith onLink false place segments = .ok p)
    (hlink : ∀ place target rest, onLink' place target rest = .ok q →
      onLink place target rest = .ok p → q = p) : q = p := by
  induction segments generalizing place with
  | nil =>
    rw [walkWith, Except.ok.injEq] at h h'
    exact h'.symm.trans h
  | cons segment rest ih =>
    rw [walkWith] at h h'
    split at h'
    · cases h'
    · next hstands =>
      obtain ⟨hplace, hdirectory⟩ := at?_erase_eq_some hp hstands
      rw [hdirectory] at h
      dsimp only at h
      by_cases hstill : Path.isStill segment = true
      · rw [if_pos hstill] at h h'
        exact ih h' h
      by_cases hup : segment = ".."
      · rw [if_neg hstill, if_pos hup] at h h'
        exact ih h' h
      by_cases hlong : maxNameBytes < segment.utf8ByteSize
      · rw [if_neg hstill, if_neg hup, if_pos hlong] at h'
        cases h'
      rw [if_neg hstill, if_neg hup, if_neg hlong] at h h'
      dsimp only at h h'
      rw [at?_erase t hp] at h'
      by_cases hinner : place ++ [segment] = p
      · -- the walk comes to the empty place, and there it stops
        rw [if_pos hinner] at h'
        exact (eq_of_walkWith_missing (by rw [at?_erase t hp, if_pos hinner]) h').trans hinner
      rw [if_neg hinner] at h'
      split at h'
      · next target htarget =>
        rw [htarget] at h
        dsimp only at h
        cases hrest : rest.isEmpty with
        | true =>
          rw [hrest] at h
          exact absurd (Except.ok.inj h) hinner
        | false =>
          rw [hrest] at h h'
          exact hlink _ _ _ h' h
      · next hnone =>
        split at h
        · next target htarget => exact absurd htarget (hnone target)
        · exact ih h' h
    · cases h'

/-- Such a walk, with a limit to the links that are followed. -/
theorem walk_erase (hp : p ≠ []) {links : Nat} {place : Place} {segments : List String}
    (h' : (t.erase p).walk true links place segments = .ok q)
    (h : t.walk false links place segments = .ok p) : q = p := by
  induction links generalizing place segments with
  | zero =>
    rw [walk] at h h'
    exact walkWith_erase hp h' h fun _ _ _ hfailed => nomatch hfailed
  | succ links ih =>
    rw [walk] at h h'
    exact walkWith_erase hp h' h fun _ _ _ => ih

end Walking

/-! ## Taking a file away -/

/-- What is taken away stands at the place that the path leads to without following a link at its
end. -/
theorem exists_of_remove (h : t.remove current path = .ok t') :
    ∃ place, t.locateLink current path = .ok place ∧ place ≠ [] ∧ t' = t.erase place := by
  rw [remove, linkNode] at h
  cases hplace : t.locateLink current path with
  | error fault =>
    rw [hplace] at h
    cases h
  | ok place =>
    rw [hplace] at h
    refine ⟨place, rfl, ?_, ?_⟩
    · -- at the root there is a directory, which is not taken away
      rintro rfl
      cases h
    · cases hstands : t.at? place with
      | none =>
        simp only [bind, Except.bind, found, hstands] at h
        cases h
      | some node =>
        simp only [bind, Except.bind, found, hstands] at h
        cases node with
        | directory => cases h
        | _ => exact (Except.ok.inj h).symm

/-- In a tree without the place that a path leads to, the path leads nowhere else. -/
theorem eq_of_locate_erase (hp : p ≠ []) (h : t.locateLink current path = .ok p)
    (h' : (t.erase p).locate current path = .ok q) : q = p := by
  rw [locateLink, resolve] at h
  rw [locate, resolve] at h'
  split_ifs at h h'
  exact walk_erase hp h' h

/-- **After a file has been taken away nothing is left** where the path to it led. -/
theorem node_of_remove (h : t.remove current path = .ok t') :
    ∃ fault, t'.node current path = .error fault := by
  obtain ⟨place, hplace, hne, rfl⟩ := exists_of_remove h
  rw [node]
  cases hwalk : (t.erase place).locate current path with
  | error fault => exact ⟨fault, rfl⟩
  | ok q =>
    obtain rfl := eq_of_locate_erase hne hplace hwalk
    refine ⟨.missing, ?_⟩
    simp only [bind, Except.bind, found, at?_erase t hne, if_pos]

end ScriptedShell.Files.Tree
