import ErrorCatalog.Proofs.Disk.Changes
import ErrorCatalog.Proofs.Disk.Ending

/-!
# Making directories

Directories are made on the way of a path only, where nothing stood, whether the path can be made as
a whole or not. If it can, it leads to a directory afterwards; where it leads to one already,
nothing is changed.
-/

namespace ErrorCatalog

namespace Disk

variable {disk after : Disk} {p q : Path} {place : Location}

/-! ## One directory -/

/-- Making a directory succeeds by putting one where nothing was, and the path then leads there. -/
theorem exists_of_makeDirectory (h : disk.makeDirectory p = .ok after) :
    ∃ place, disk.objectAt place = none ∧ after = disk.put place .directory
      ∧ after.locate p = .ok place := by
  unfold makeDirectory at h
  split at h
  · cases h
  · cases h
  · next directory name slash hending =>
    split_ifs at h with hlong
    split at h
    · cases h
    · next hnone =>
      cases h
      refine ⟨directory ++ [name], hnone, rfl, ?_⟩
      -- The new directory changes no way to the path, and it now stands at its end.
      have hchanges : ChangesOnly (fun _ => True) (fun _ => False) disk
          (disk.put (directory ++ [name]) .directory) :=
        changesOnly_put_directory hnone trivial
      have hobject : (disk.put (directory ++ [name]) .directory).objectAt (directory ++ [name])
          = some .directory :=
        (isInPlace_put disk _ _).objectAt (ne_nil_of_objectAt_eq_none hnone)
      exact locate_of_ending (hchanges.keeps.ending hending) (by simpa using hlong)
        (by simp [hobject]) (fun _ => hobject)

/-- A path that leads somewhere already cannot be made a directory. -/
theorem makeDirectory_of_locate (h : disk.locate p = .ok place) :
    disk.makeDirectory p = .error .alreadyExists := by
  unfold makeDirectory
  rcases ending_of_locate h with hpresent | ⟨directory, name, slash, hending, hshort, hobject⟩
  · rw [hpresent]
  · rcases Option.ne_none_iff_exists'.1 hobject with ⟨object, hobject⟩
    simp [hending, hshort, hobject]

/-! ## The ways of parents -/

/-- The way of the root does not leave the root. -/
theorem eq_nil_of_isOnWay_root (h : disk.IsOnWay ['/'] place) : place = [] := by
  rcases h with ⟨front, hfront, hwalk⟩
  have hidle : front <+: List.replicate 2 [] := hfront
  rw [(List.prefix_replicate_iff.1 hidle).2, walk_replicate_eq_ok_iff] at hwalk
  exact hwalk.2.symm

/-- A path and its parent are walked from the same place. -/
theorem start_of_parent? (hparent : Path.parent? p = some q) (hne : q ≠ []) :
    disk.start q = disk.start p := by
  unfold start
  rw [Path.isAbsolute_of_parent? hparent hne]

/-- What is below the root on the way of a parent is on the way of the path. -/
theorem IsOnWay.of_parent? (h : disk.IsOnWay q place) (hparent : Path.parent? p = some q)
    (hne : q ≠ []) (hplace : place ≠ []) : disk.IsOnWay p place := by
  rcases Path.pieces_of_parent? hparent hne with rfl | ⟨others, -, hpieces⟩
  · exact absurd (eq_nil_of_isOnWay_root h) hplace
  · rcases h with ⟨front, hfront, hwalk⟩
    refine ⟨front, hfront.trans ?_, start_of_parent? hparent hne ▸ hwalk⟩
    rw [hpieces]
    exact List.prefix_append _ others

/-- A location on the way of the directory that a path stands in. -/
def IsAbove (disk : Disk) (p : Path) (place : Location) : Prop :=
  ∃ q, Path.parent? p = some q ∧ q ≠ [] ∧ disk.IsOnWay q place

/-- Being above a place survives every change that keeps the directories. -/
theorem IsAbove.mono (h : disk.IsAbove p place) (hkeeps : Keeps disk after) :
    after.IsAbove p place := by
  rcases h with ⟨q, hparent, hne, hway⟩
  exact ⟨q, hparent, hne, hway.mono hkeeps⟩

/-! ## All directories of a path -/

/-- For a directory that exists there is nothing to make. -/
theorem makeDirectories_of_isDirectory (h : disk.isDirectory p = true) :
    disk.makeDirectories p = (.ok (), disk) := by
  rcases isDirectory_iff.1 h with ⟨place, hlocate, -⟩
  unfold makeDirectories
  simp [makeDirectory_of_locate hlocate, h]

/-- Directories were made on the way of a path; after a success the path leads to a directory. -/
structure MakesWay (p : Path) (before : Disk) (result : Except DiskFault Unit) (after : Disk) :
    Prop where
  changesOnly : ChangesOnly (fun place => p ≠ [] ∧ after.IsOnWay p place) (fun _ => False)
    before after
  isDirectory : result = .ok () → p = [] ∨ after.isDirectory p = true

/-- A run that changes nothing makes its way if it fails or the directory was there. -/
theorem makesWay_of_unchanged {result : Except DiskFault Unit}
    (h : result = .ok () → p = [] ∨ disk.isDirectory p = true) : MakesWay p disk result disk :=
  ⟨.refl disk, h⟩

/-- Making the last directory of a path makes the way to it. -/
theorem makesWay_of_makeDirectory (hne : p ≠ []) (h : disk.makeDirectory p = .ok after) :
    MakesWay p disk (.ok ()) after := by
  rcases exists_of_makeDirectory h with ⟨place, hnone, rfl, hlocate⟩
  have hobject : (disk.put place .directory).objectAt place = some .directory :=
    (isInPlace_put disk place .directory).objectAt (ne_nil_of_objectAt_eq_none hnone)
  refine ⟨changesOnly_put_directory hnone ⟨hne, ?_⟩, fun _ => .inr ?_⟩
  · exact (locate_eq_ok_iff.1 hlocate).2.isOnWay
  · exact isDirectory_iff.2 ⟨place, hlocate, hobject⟩

/-- What makes the way to the parent stays on the way to the path itself. -/
theorem MakesWay.of_parent? {result : Except DiskFault Unit} (h : MakesWay q disk result after)
    (hparent : Path.parent? p = some q) (hne : p ≠ []) :
    ChangesOnly (fun place => p ≠ [] ∧ after.IsOnWay p place) (fun _ => False) disk after := by
  refine h.changesOnly.mono ?_ (fun _ => id)
  rintro place hnone ⟨hq, hway⟩
  exact ⟨hne, hway.of_parent? hparent hq (ne_nil_of_objectAt_eq_none hnone)⟩

/-- The recursion goes up to the first parent that is there, and makes the missing directories from
there down. -/
theorem makesWay_makeDirectories (disk : Disk) (p : Path) :
    MakesWay p disk (disk.makeDirectories p).1 (disk.makeDirectories p).2 := by
  fun_induction makeDirectories disk p with
  | case1 p hempty => exact makesWay_of_unchanged fun _ => .inl (by simpa using hempty)
  | case2 p hempty made hmake => exact makesWay_of_makeDirectory (by simpa using hempty) hmake
  | case3 p => exact makesWay_of_unchanged nofun
  | case4 p hempty hmake parent hparent hlength fault changed hchanged ih =>
    rw [hchanged] at ih
    exact ⟨ih.of_parent? hparent (by simpa using hempty), nofun⟩
  | case5 p hempty hmake parent hparent hlength changed hchanged made hmade ih =>
    rw [hchanged] at ih
    have hne : p ≠ [] := by simpa using hempty
    have hlast := makesWay_of_makeDirectory hne hmade
    -- What was on the way before the last directory was made is so afterwards.
    have hfirst : ChangesOnly (fun place => p ≠ [] ∧ made.IsOnWay p place) (fun _ => False)
        disk changed := by
      refine (ih.of_parent? hparent hne).mono ?_ (fun _ => id)
      rintro place - ⟨-, hway⟩
      exact ⟨hne, hway.mono hlast.changesOnly.keeps⟩
    exact ⟨hfirst.trans hlast.changesOnly, hlast.isDirectory⟩
  | case6 p hempty hmake parent hparent hlength changed hchanged fault hmade ih =>
    rw [hchanged] at ih
    refine ⟨ih.of_parent? hparent (by simpa using hempty), ?_⟩
    intro hresult
    exact .inr (by by_contra hnot; simp [hnot] at hresult)
  | case7 p hempty fault hfault hmake =>
    refine makesWay_of_unchanged ?_
    intro hresult
    exact .inr (by by_contra hnot; simp [hnot] at hresult)

end Disk

end ErrorCatalog
