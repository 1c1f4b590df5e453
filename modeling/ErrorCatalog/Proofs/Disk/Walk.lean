import ErrorCatalog.Disk.Basic
import Mathlib.Tactic.SplitIfs

/-!
# Walking paths

A walk over segments goes over the first of them and then over the others. Every segment needs a
directory to start from: an empty one stays there, and a name leads down to what stands there under
it.

A disk *keeps* another when it has all directories of it, and something wherever something stood. A
walk that leads somewhere leads there on every disk that keeps the one it was made on, whatever
files and directories came in between.
-/

namespace ErrorCatalog

namespace Disk

variable {disk before between after : Disk} {place next home : Location} {name : Text}
  {front rest : List Text} {p : Path}

/-! ## Segment by segment -/

/-- A segment that leads down: it is not idle, and not two dots. -/
def IsName (segment : Text) : Prop :=
  segment ≠ [] ∧ segment ≠ ['.'] ∧ segment ≠ ['.', '.']

/-- A segment that leads nowhere else. -/
def IsIdle (segment : Text) : Prop :=
  segment = [] ∨ segment = ['.']

/-- A segment that is not two dots stays in place or names a child. -/
theorem isIdle_or_isName {segment : Text} (h : segment ≠ ['.', '.']) :
    IsIdle segment ∨ IsName segment := by
  by_cases hidle : IsIdle segment
  · exact .inl hidle
  · rcases not_or.1 hidle with ⟨hempty, hdot⟩
    exact .inr ⟨hempty, hdot, h⟩

/-- A walk over two stretches is a walk over the first and then over the second. -/
theorem walk_append_eq_ok_iff :
    disk.walk place (front ++ rest) = .ok next ↔
      ∃ middle, disk.walk place front = .ok middle ∧ disk.walk middle rest = .ok next := by
  induction front generalizing place with
  | nil => simp [walk]
  | cons segment front ih =>
    simp only [List.cons_append, walk]
    -- The walk stops or goes on from a new place; in each case the induction covers the rest.
    split
    · simp
    · simp
    · split_ifs
      · exact ih
      · exact ih
      · simp
      · split
        · simp
        · exact ih

/-- Only a directory can be walked on from. -/
theorem objectAt_of_walk_cons {segment : Text}
    (h : disk.walk place (segment :: rest) = .ok next) :
    disk.objectAt place = some .directory := by
  unfold walk at h
  split at h
  · cases h
  · cases h
  · assumption

/-- An idle segment asks for a directory and stays in it. -/
theorem walk_idle_eq_ok_iff {segment : Text} (hidle : IsIdle segment) :
    disk.walk place (segment :: rest) = .ok next ↔
      disk.objectAt place = some .directory ∧ disk.walk place rest = .ok next := by
  have hstays : segment.isEmpty || segment = ['.'] := by
    rcases hidle with rfl | rfl
    · rfl
    · rfl
  constructor
  · intro h
    have hplace := objectAt_of_walk_cons h
    exact ⟨hplace, by simpa only [walk, hplace, hstays, if_true] using h⟩
  · rintro ⟨hplace, hrest⟩
    simpa only [walk, hplace, hstays, if_true] using hrest

theorem walk_empty_eq_ok_iff :
    disk.walk place ([] :: rest) = .ok next ↔
      disk.objectAt place = some .directory ∧ disk.walk place rest = .ok next :=
  walk_idle_eq_ok_iff (.inl rfl)

/-- Extra slashes ask for a directory and lead nowhere else. -/
theorem walk_replicate_eq_ok_iff (count : Nat) :
    disk.walk place (List.replicate count []) = .ok next ↔
      (count = 0 ∨ disk.objectAt place = some .directory) ∧ place = next := by
  induction count with
  | zero => simp [walk]
  | succ count ih =>
    rw [List.replicate_succ, walk_empty_eq_ok_iff, ih]
    grind

/-- A name leads to a child that is present and whose name is short enough. -/
theorem walk_name_eq_ok_iff (hname : IsName name) :
    disk.walk place (name :: rest) = .ok next ↔
      disk.objectAt place = some .directory ∧ isTooLong name = false
        ∧ disk.objectAt (place ++ [name]) ≠ none
        ∧ disk.walk (place ++ [name]) rest = .ok next := by
  rcases hname with ⟨hempty, hdot, hdots⟩
  constructor
  · intro h
    have hplace := objectAt_of_walk_cons h
    simp only [walk, hplace, List.isEmpty_iff, hempty, hdot, hdots, decide_false, Bool.or_false,
      if_false] at h
    split_ifs at h with hlong
    refine ⟨hplace, by simpa using hlong, ?_⟩
    split at h
    · cases h
    · next hobject => exact ⟨by simp [hobject], h⟩
  · rintro ⟨hplace, hshort, hpresent, hrest⟩
    rcases Option.ne_none_iff_exists'.1 hpresent with ⟨object, hobject⟩
    simpa [walk, hplace, hempty, hdot, hdots, hshort, hobject] using hrest

/-! ## Disks that keep others -/

/-- Directories are still directories, and something still stands wherever something stood. -/
structure Keeps (before after : Disk) : Prop where
  workingDirectory : after.workingDirectory = before.workingDirectory
  directory : ∀ place, before.objectAt place = some .directory →
    after.objectAt place = some .directory
  present : ∀ place, before.objectAt place ≠ none → after.objectAt place ≠ none

theorem Keeps.start (h : Keeps before after) (p : Path) : after.start p = before.start p := by
  unfold Disk.start
  rw [h.workingDirectory]

/-- Keeping the directories keeps every walk. The induction is on the segments. -/
theorem Keeps.walk (h : Keeps before after) {segments : List Text}
    (hwalk : before.walk place segments = .ok next) : after.walk place segments = .ok next := by
  induction segments generalizing place with
  | nil => exact hwalk
  | cons segment segments ih =>
    have hplace := objectAt_of_walk_cons hwalk
    simp only [Disk.walk, hplace, h.directory place hplace] at hwalk ⊢
    split_ifs at hwalk ⊢
    · exact ih hwalk
    · exact ih hwalk
    · -- A name leads down on both disks, since something stands there on both.
      split at hwalk
      · cases hwalk
      · next hobject =>
        have hpresent := h.present (place ++ [segment]) (by simp [hobject])
        rcases Option.ne_none_iff_exists'.1 hpresent with ⟨object, hafter⟩
        simp only [hafter]
        exact ih hwalk

/-! ## Where paths lead -/

/-- The segments of a path lead to a location. -/
def LeadsTo (disk : Disk) (p : Path) (place : Location) : Prop :=
  disk.walk (disk.start p) (Text.pieces '/' p) = .ok place

/-- The first segments of a path, as many as it takes, lead to a location. -/
def IsOnWay (disk : Disk) (p : Path) (place : Location) : Prop :=
  ∃ front, front <+: Text.pieces '/' p ∧ disk.walk (disk.start p) front = .ok place

/-- The end of the way is on it. -/
theorem LeadsTo.isOnWay (h : disk.LeadsTo p place) : disk.IsOnWay p place :=
  ⟨Text.pieces '/' p, List.prefix_rfl, h⟩

/-- A path leads to one place. -/
theorem LeadsTo.unique (h : disk.LeadsTo p place) (hnext : disk.LeadsTo p next) : place = next :=
  Except.ok.inj (h.symm.trans hnext)

/-- What leads somewhere leads there after the change. -/
theorem LeadsTo.mono (h : before.LeadsTo p place) (hkeeps : Keeps before after) :
    after.LeadsTo p place := by
  unfold LeadsTo
  rw [hkeeps.start]
  exact hkeeps.walk h

/-- What was on the way is on the way after the change. -/
theorem IsOnWay.mono (h : before.IsOnWay p place) (hkeeps : Keeps before after) :
    after.IsOnWay p place := by
  rcases h with ⟨front, hfront, hwalk⟩
  refine ⟨front, hfront, ?_⟩
  rw [hkeeps.start]
  exact hkeeps.walk hwalk

end Disk

end ErrorCatalog
