import ErrorCatalog.Proofs.Disk.Path
import ErrorCatalog.Proofs.Disk.Walk

/-!
# The ends of paths

A path ends in a name when the base of its parts leads to a directory and the name is not made of
dots. The operations that change a disk look at the end of a path, those that read look at all of
it; both see the same location, as soon as something stands there.
-/

namespace ErrorCatalog

namespace Disk

variable {disk before after : Disk} {p base name slashes : Text} {directory place home : Location}
  {slash : Bool}

/-! ## Names at the end -/

/-- The end of a path is decided by its last name, after the walk over what is in front of it. -/
theorem ending_of_parts (h : Path.Parts p base name slashes) (hcheck : checkPath p = .ok ()) :
    disk.ending p =
      (disk.walk (disk.start p) (Text.pieces '/' base)).map fun directory =>
        if name = ['.'] ∨ name = ['.', '.'] then .present
        else .name directory name !slashes.isEmpty := by
  have hbody : (base ++ name).isEmpty = false := by simp [h.name_ne_nil]
  -- Trimming has made the path shorter exactly if there were slashes behind the name.
  have hlength : ((base ++ name).length != p.length) = !slashes.isEmpty := by
    rw [h.path_eq, List.length_append]
    cases slashes <;> simp
  simp only [ending, hcheck, h.trimEnd_path, h.afterLast_body, h.trimEnd_body, hbody, hlength,
    Bool.false_eq_true, if_false]
  cases disk.walk (disk.start p) (Text.pieces '/' base) with
  | error fault => simp [Except.map]
  | ok directory =>
    by_cases hdots : name = ['.'] ∨ name = ['.', '.'] <;> simp [Except.map, hdots]

/-- A path ends in a name exactly if its last part is a proper name and the walk to it succeeds. -/
theorem ending_eq_name_iff :
    disk.ending p = .ok (.name directory name slash) ↔
      checkPath p = .ok () ∧ IsName name ∧
        ∃ base slashes, Path.Parts p base name slashes ∧ slash = !slashes.isEmpty
          ∧ disk.walk (disk.start p) (Text.pieces '/' base) = .ok directory := by
  constructor
  · intro h
    -- Each step towards a name succeeds: the check, the cut into parts, the walk to the base.
    cases hcheck : checkPath p with
    | error fault => simp [ending, hcheck] at h
    | ok value =>
      refine ⟨rfl, ?_⟩
      by_cases hbody : Text.trimEnd (· = '/') p = []
      · simp [ending, hcheck, hbody] at h
      · rcases Path.exists_parts hbody with ⟨base, last, slashes, hparts⟩
        rw [ending_of_parts hparts hcheck] at h
        cases hwalk : disk.walk (disk.start p) (Text.pieces '/' base) with
        | error fault =>
          rw [hwalk] at h
          cases h
        | ok middle =>
          rw [hwalk] at h
          have hend := Except.ok.inj h
          split_ifs at hend with hdots
          cases hend
          rcases not_or.1 hdots with ⟨hdot, hdots⟩
          exact ⟨⟨hparts.name_ne_nil, hdot, hdots⟩, base, slashes, hparts, rfl, hwalk⟩
  · rintro ⟨hcheck, ⟨-, hdot, hdots⟩, base, slashes, hparts, rfl, hwalk⟩
    simp [ending_of_parts hparts hcheck, hwalk, hdot, hdots, Except.map]

/-- Keeping the directories keeps what a path ends in. -/
theorem Keeps.ending (h : Keeps before after) {result : Ending}
    (hending : before.ending p = .ok result) : after.ending p = .ok result := by
  unfold Disk.ending at hending ⊢
  cases hcheck : checkPath p with
  | error fault => simp [hcheck] at hending
  | ok value =>
    simp only [hcheck] at hending ⊢
    by_cases hbody : (Text.trimEnd (· = '/') p).isEmpty = true
    · rwa [if_pos hbody] at hending ⊢
    · rw [if_neg hbody] at hending ⊢
      cases hwalk : before.walk (before.start p)
          (Text.pieces '/' (Text.trimEnd (· != '/') (Text.trimEnd (· = '/') p))) with
      | error fault => simp [hwalk] at hending
      | ok directory =>
        -- The walk ends in the same place, and the rest does not look at the disk.
        rw [h.start, h.walk hwalk]
        rwa [hwalk] at hending

/-! ## The end and the whole -/

/-- What a path leads to, if it ends in a name, stands under that name. -/
theorem walk_of_parts (h : Path.Parts p base name slashes) (hname : IsName name) :
    disk.walk (disk.start p) (Text.pieces '/' p) = .ok place ↔
      ∃ directory, disk.walk (disk.start p) (Text.pieces '/' base) = .ok directory
        ∧ isTooLong name = false ∧ disk.objectAt (directory ++ [name]) ≠ none
        ∧ (slashes = [] ∨ disk.objectAt (directory ++ [name]) = some .directory)
        ∧ directory ++ [name] = place := by
  rcases h.exists_pieces with ⟨front, hbase, hpath⟩
  rw [hbase, hpath, walk_append_eq_ok_iff]
  -- The base ends with an empty segment, the slashes behind the name are empty segments too.
  simp only [walk_append_eq_ok_iff, walk_empty_eq_ok_iff, walk_name_eq_ok_iff hname,
    walk_replicate_eq_ok_iff, List.length_eq_zero_iff]
  constructor
  · rintro ⟨directory, hfront, hdirectory, hshort, hpresent, hslashes, hplace⟩
    exact ⟨directory, ⟨directory, hfront, hdirectory, rfl⟩, hshort, hpresent, hslashes, hplace⟩
  · rintro ⟨directory, ⟨middle, hfront, hdirectory, hmiddle⟩, hshort, hpresent, hslashes, hplace⟩
    cases hmiddle
    exact ⟨directory, hfront, hdirectory, hshort, hpresent, hslashes, hplace⟩

/-- A walk over a path comes by the directory that its base leads to. -/
theorem exists_walk_base (h : Path.Parts p base name slashes)
    (hwalk : disk.walk home (Text.pieces '/' p) = .ok place) :
    ∃ directory, disk.walk home (Text.pieces '/' base) = .ok directory := by
  rcases h.exists_pieces with ⟨front, hbase, hpath⟩
  rw [hpath] at hwalk
  rcases walk_append_eq_ok_iff.1 hwalk with ⟨directory, hfront, hrest⟩
  refine ⟨directory, ?_⟩
  rw [hbase]
  exact walk_append_eq_ok_iff.2
    ⟨directory, hfront, walk_empty_eq_ok_iff.2 ⟨objectAt_of_walk_cons hrest, rfl⟩⟩

/-- Locating a path is following it, once the system takes it as a path. -/
theorem locate_eq_ok_iff :
    disk.locate p = .ok place ↔ checkPath p = .ok () ∧ disk.LeadsTo p place := by
  unfold locate LeadsTo
  cases checkPath p with
  | error fault => simp
  | ok value => simp

/-- Finding the object of a path is looking at the place it leads to. -/
theorem find_eq_ok_iff {object : Object} :
    disk.find p = .ok object ↔
      ∃ place, disk.locate p = .ok place ∧ disk.objectAt place = some object := by
  unfold find
  cases disk.locate p with
  | error fault => simp
  | ok place =>
    cases hobject : disk.objectAt place with
    | none => simp [hobject]
    | some found => simp [hobject]

theorem isDirectory_iff :
    disk.isDirectory p = true ↔
      ∃ place, disk.locate p = .ok place ∧ disk.objectAt place = some .directory := by
  rw [← find_eq_ok_iff]
  unfold isDirectory
  split
  · next hfind => simp [hfind]
  · next hfind => simpa using hfind

/-- A path that leads somewhere leads there still. -/
theorem Keeps.locate (h : Keeps before after) (hlocate : before.locate p = .ok place) :
    after.locate p = .ok place := by
  rcases locate_eq_ok_iff.1 hlocate with ⟨hcheck, hleads⟩
  exact locate_eq_ok_iff.2 ⟨hcheck, hleads.mono h⟩

theorem Keeps.isDirectory (h : Keeps before after) (hdirectory : before.isDirectory p = true) :
    after.isDirectory p = true := by
  rcases isDirectory_iff.1 hdirectory with ⟨place, hlocate, hobject⟩
  exact isDirectory_iff.2 ⟨place, h.locate hlocate, h.directory place hobject⟩

/-- A path whose last name is present leads to it, except that a slash asks for a directory. -/
theorem locate_of_ending (h : disk.ending p = .ok (.name directory name slash))
    (hshort : isTooLong name = false) (hpresent : disk.objectAt (directory ++ [name]) ≠ none)
    (hslash : slash = true → disk.objectAt (directory ++ [name]) = some .directory) :
    disk.locate p = .ok (directory ++ [name]) := by
  rcases ending_eq_name_iff.1 h with ⟨hcheck, hname, base, slashes, hparts, rfl, hwalk⟩
  refine locate_eq_ok_iff.2 ⟨hcheck, (walk_of_parts hparts hname).2 ?_⟩
  refine ⟨directory, hwalk, hshort, hpresent, ?_, rfl⟩
  by_cases hslashes : slashes = []
  · exact .inl hslashes
  · exact .inr (hslash (by simpa using hslashes))

/-- A path that leads somewhere ends in a directory that is there, or in a name under which
something stands. -/
theorem ending_of_locate (h : disk.locate p = .ok place) :
    disk.ending p = .ok .present
      ∨ ∃ directory name slash, disk.ending p = .ok (.name directory name slash)
        ∧ isTooLong name = false ∧ disk.objectAt (directory ++ [name]) ≠ none := by
  rcases locate_eq_ok_iff.1 h with ⟨hcheck, hleads⟩
  by_cases hbody : Text.trimEnd (· = '/') p = []
  · exact .inl (by simp [ending, hcheck, hbody])
  · rcases Path.exists_parts hbody with ⟨base, name, slashes, hparts⟩
    by_cases hname : IsName name
    · rcases (walk_of_parts hparts hname).1 hleads with
        ⟨directory, hwalk, hshort, hpresent, -, -⟩
      exact .inr ⟨directory, name, _,
        ending_eq_name_iff.2 ⟨hcheck, hname, base, slashes, hparts, rfl, hwalk⟩, hshort, hpresent⟩
    · -- A name that leads down nowhere is made of dots.
      have hdots : name = ['.'] ∨ name = ['.', '.'] := by
        by_contra hnot
        rcases not_or.1 hnot with ⟨hdot, hdots⟩
        exact hname ⟨hparts.name_ne_nil, hdot, hdots⟩
      rcases exists_walk_base hparts hleads with ⟨directory, hwalk⟩
      exact .inl (by simp [ending_of_parts hparts hcheck, hwalk, hdots, Except.map])

end Disk

end ErrorCatalog
