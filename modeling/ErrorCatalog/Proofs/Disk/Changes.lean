import ErrorCatalog.Proofs.Disk.Walk
import ErrorCatalog.Proofs.SortedTable
import Mathlib.Data.Char
import Mathlib.Data.List.Lex

/-!
# Changes of disks

`Disk.ChangesOnly made written before after` bounds what may have happened between two disks: at the
locations of `made` directories were made where nothing stood, at those of `written` files were
given contents where no directory stood, and nothing else was changed. Such changes can follow one
another, and what a disk had it keeps.

A file that has a content already is *in place*: giving it the same content once more changes
nothing at all, and this stays so while other files are written.
-/

namespace ErrorCatalog

namespace Disk

variable {disk before between after : Disk} {place other : Location} {object : Object}
  {content : Bytes} {made written moreMade moreWritten : Location → Prop}

/-! ## Rows in place -/

/-- Putting an object at a location would change nothing. -/
def IsInPlace (disk : Disk) (place : Location) (object : Object) : Prop :=
  disk.put place object = disk

/-- What has just been put somewhere is there. -/
theorem isInPlace_put (disk : Disk) (place : Location) (object : Object) :
    (disk.put place object).IsInPlace place object := by
  unfold IsInPlace put
  rw [SortedTable.put_put]

/-- Putting something elsewhere leaves a thing in its place. -/
theorem IsInPlace.put (h : disk.IsInPlace place object) (hne : place ≠ other)
    (another : Object) : (disk.put other another).IsInPlace place object := by
  have hrow : SortedTable.put place object disk.objects = disk.objects :=
    congrArg Disk.objects h
  unfold IsInPlace Disk.put
  rw [SortedTable.put_put_of_ne another hrow hne]

/-- Away from the root, what is in place is what a lookup finds. -/
theorem IsInPlace.objectAt (h : disk.IsInPlace place object) (hne : place ≠ []) :
    disk.objectAt place = some object := by
  rw [← h, objectAt_put disk place place object hne, if_pos rfl]

/-! ## Bounded changes -/

/-- Directories were made at some locations and files written at others; all else is unchanged. -/
structure ChangesOnly (made written : Location → Prop) (before after : Disk) : Prop where
  workingDirectory : after.workingDirectory = before.workingDirectory
  objectAt : ∀ place, after.objectAt place = before.objectAt place
    ∨ (made place ∧ before.objectAt place = none ∧ after.objectAt place = some .directory)
    ∨ (written place ∧ before.objectAt place ≠ some .directory
        ∧ ∃ content, after.objectAt place = some (.file content))
  isInPlace : ∀ place object, ¬ written place → before.IsInPlace place object →
    after.IsInPlace place object

namespace ChangesOnly

theorem refl (disk : Disk) : ChangesOnly made written disk disk where
  workingDirectory := rfl
  objectAt _ := .inl rfl
  isInPlace _ _ _ h := h

/-- Two changes in a row change only what either may change. -/
theorem trans (h : ChangesOnly made written before between)
    (h' : ChangesOnly made written between after) : ChangesOnly made written before after where
  workingDirectory := h'.workingDirectory.trans h.workingDirectory
  objectAt := by
    intro place
    rcases h'.objectAt place with hsame | ⟨hmade, hnone, hdirectory⟩ | ⟨hwritten, hfile, hcontent⟩
    · rw [hsame]
      exact h.objectAt place
    · -- Nothing stood there in between, so nothing had been changed there.
      rcases h.objectAt place with hbefore | ⟨-, -, hbefore⟩ | ⟨-, -, content, hbefore⟩
      · exact .inr (.inl ⟨hmade, hbefore ▸ hnone, hdirectory⟩)
      · simp [hbefore] at hnone
      · simp [hbefore] at hnone
    · rcases h.objectAt place with hbefore | ⟨-, -, hbefore⟩ | ⟨-, hold, -⟩
      · exact .inr (.inr ⟨hwritten, hbefore ▸ hfile, hcontent⟩)
      · exact absurd hbefore hfile
      · exact .inr (.inr ⟨hwritten, hold, hcontent⟩)
  isInPlace place object hnot hplace :=
    h'.isInPlace place object hnot (h.isInPlace place object hnot hplace)

/-- Where a directory is made, nothing stood before. -/
theorem mono (h : ChangesOnly made written before after)
    (hmade : ∀ place, before.objectAt place = none → made place → moreMade place)
    (hwritten : ∀ place, written place → moreWritten place) :
    ChangesOnly moreMade moreWritten before after where
  workingDirectory := h.workingDirectory
  objectAt place := by
    rcases h.objectAt place with hsame | ⟨hplace, hnone, hdirectory⟩ | ⟨hplace, hfile, hcontent⟩
    · exact .inl hsame
    · exact .inr (.inl ⟨hmade place hnone hplace, hnone, hdirectory⟩)
    · exact .inr (.inr ⟨hwritten place hplace, hfile, hcontent⟩)
  isInPlace place object hnot := h.isInPlace place object (mt (hwritten place) hnot)

/-- Directories are never taken away and nothing turns into one that was there before. -/
theorem keeps (h : ChangesOnly made written before after) : Keeps before after where
  workingDirectory := h.workingDirectory
  directory := by
    intro place hdirectory
    rcases h.objectAt place with hsame | ⟨-, hnone, -⟩ | ⟨-, hfile, -⟩
    · rw [hsame, hdirectory]
    · simp [hdirectory] at hnone
    · exact absurd hdirectory hfile
  present := by
    intro place hpresent
    rcases h.objectAt place with hsame | ⟨-, -, hmade⟩ | ⟨-, -, content, hcontent⟩
    · rwa [hsame]
    · simp [hmade]
    · simp [hcontent]

/-- A file that is not written has the content that it had. -/
theorem file (h : ChangesOnly made written before after) (hnot : ¬ written place)
    (hfile : before.objectAt place = some (.file content)) :
    after.objectAt place = some (.file content) := by
  rcases h.objectAt place with hsame | ⟨-, hnone, -⟩ | ⟨hwritten, -, -⟩
  · rw [hsame, hfile]
  · simp [hfile] at hnone
  · exact absurd hwritten hnot

end ChangesOnly

/-! ## Single changes -/

/-- The root is always there, so a free place is not the root. -/
theorem ne_nil_of_objectAt_eq_none (h : disk.objectAt place = none) : place ≠ [] := by
  rintro rfl
  simp [objectAt] at h

theorem ne_nil_of_objectAt_ne_directory (h : disk.objectAt place ≠ some .directory) :
    place ≠ [] := by
  rintro rfl
  simp [objectAt] at h

/-- A new directory at a free place is a change of the first kind. -/
theorem changesOnly_put_directory (hnone : disk.objectAt place = none) (hmade : made place) :
    ChangesOnly made written disk (disk.put place .directory) where
  workingDirectory := rfl
  objectAt other := by
    rw [objectAt_put disk place other .directory (ne_nil_of_objectAt_eq_none hnone)]
    split_ifs with heq
    · subst heq
      exact .inr (.inl ⟨hmade, hnone, rfl⟩)
    · exact .inl rfl
  isInPlace other object _ h := by
    refine h.put ?_ .directory
    rintro rfl
    simp [h.objectAt (ne_nil_of_objectAt_eq_none hnone)] at hnone

/-- A file put where no directory stands is a change of the second kind. -/
theorem changesOnly_put_file (hfile : disk.objectAt place ≠ some .directory)
    (hwritten : written place) (content : Bytes) :
    ChangesOnly made written disk (disk.put place (.file content)) where
  workingDirectory := rfl
  objectAt other := by
    rw [objectAt_put disk place other _ (ne_nil_of_objectAt_ne_directory hfile)]
    split_ifs with heq
    · subst heq
      exact .inr (.inr ⟨hwritten, hfile, content, rfl⟩)
    · exact .inl rfl
  isInPlace other object hnot h := by
    refine h.put ?_ (.file content)
    rintro rfl
    exact hnot hwritten

end Disk

end ErrorCatalog
