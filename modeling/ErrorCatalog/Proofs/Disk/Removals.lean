import ErrorCatalog.Proofs.Disk.Changes
/-!
# What is removed

`Disk.removals` compares two disks row by row. On a disk whose rows are a table, one for each
location, it lists the locations that lost the file or the directory which they had. Bounded changes
remove nothing; a file that is taken away is listed, and nothing else with it.
-/

namespace ErrorCatalog

namespace Disk

variable {disk before after : Disk} {place : Location} {object : Object} {p : Path}
  {made written : Location → Prop}

/-- Each location has one row, and the root, where there is always a directory, has none. -/
structure IsTable (disk : Disk) : Prop where
  ascending : SortedTable.IsAscending disk.objects
  root_not_mem : [] ∉ SortedTable.keys disk.objects

/-- In a table the objects listed are those a lookup finds. -/
theorem IsTable.mem_objects_iff (h : disk.IsTable) :
    (place, object) ∈ disk.objects ↔ place ≠ [] ∧ disk.objectAt place = some object := by
  rw [h.ascending.mem_iff]
  by_cases hroot : place = []
  · have hnone := (SortedTable.get?_eq_none_iff disk.objects []).2 h.root_not_mem
    simp [hroot, hnone]
  · simp [objectAt, hroot]

/-- Putting an object keeps the table sorted and the root out of it. -/
theorem IsTable.put (h : disk.IsTable) (hne : place ≠ []) (object : Object) :
    (disk.put place object).IsTable where
  ascending := h.ascending.put place object
  root_not_mem := by
    intro hmem
    rcases List.mem_map.1 hmem with ⟨row, hrow, hroot⟩
    rcases SortedTable.mem_of_mem_put hrow with rfl | hrow
    · exact hne hroot
    · exact h.root_not_mem (List.mem_map.2 ⟨row, hrow, hroot⟩)

/-- What is removed is what was there and is there no more, at least not as what it was. -/
theorem IsTable.mem_removals_iff (h : before.IsTable) :
    place ∈ removals before after ↔ place ≠ [] ∧ ∃ object, before.objectAt place = some object
      ∧ (after.objectAt place).map Object.isDirectory ≠ some object.isDirectory := by
  constructor
  · intro hmem
    rcases List.mem_map.1 hmem with ⟨⟨other, object⟩, hrow, rfl⟩
    rcases List.mem_filter.1 hrow with ⟨hrow, hlost⟩
    rcases h.mem_objects_iff.1 hrow with ⟨hne, hobject⟩
    exact ⟨hne, object, hobject, by simpa using hlost⟩
  · rintro ⟨hne, object, hobject, hlost⟩
    refine List.mem_map.2 ⟨(place, object), List.mem_filter.2 ⟨?_, ?_⟩, rfl⟩
    · exact h.mem_objects_iff.2 ⟨hne, hobject⟩
    · simpa using hlost

/-- Making directories where nothing stands and writing files where no directory stands removes
nothing. -/
theorem ChangesOnly.removals_eq_nil (h : ChangesOnly made written before after)
    (htable : before.IsTable) : removals before after = [] := by
  refine List.eq_nil_iff_forall_not_mem.2 fun place hmem => ?_
  rcases htable.mem_removals_iff.1 hmem with ⟨-, object, hobject, hlost⟩
  apply hlost
  rcases h.objectAt place with hsame | ⟨-, hnone, -⟩ | ⟨-, hfile, content, hcontent⟩
  · rw [hsame, hobject]
    rfl
  · simp [hobject] at hnone
  · cases object with
    | file old =>
      rw [hcontent]
      rfl
    | directory => exact absurd hobject hfile

/-- Taking away what a path leads to leaves everything else where it is. -/
theorem objectAt_of_remove (h : before.remove p = .ok after) (hne : place ≠ []) :
    after.objectAt place =
      if before.locate p = .ok place then none else before.objectAt place := by
  unfold remove at h
  cases hlocate : before.locate p with
  | error fault =>
    rw [hlocate] at h
    cases h
  | ok other =>
    rw [hlocate] at h
    cases h
    simp only [objectAt, List.isEmpty_iff, hne, if_false, SortedTable.get?_filter_ne,
      Except.ok.injEq]

/-- Taking away what a path leads to removes this and nothing else. -/
theorem mem_removals_of_remove (htable : before.IsTable) (h : before.remove p = .ok after) :
    place ∈ removals before after ↔
      place ≠ [] ∧ before.locate p = .ok place ∧ before.objectAt place ≠ none := by
  rw [htable.mem_removals_iff]
  refine and_congr_right fun hne => ?_
  rw [objectAt_of_remove h hne]
  split_ifs with hplace
  · simp [hplace, Option.ne_none_iff_exists']
  · -- What stands elsewhere is what stood there, so nothing is lost.
    refine iff_of_false ?_ fun hother => hplace hother.1
    rintro ⟨object, hobject, hlost⟩
    exact hlost (by rw [hobject]; rfl)

end Disk

end ErrorCatalog
