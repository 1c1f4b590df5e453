import ErrorCatalog.Proofs.Disk.Directories

/-!
# Writing files

Writing puts a file where the end of the path leads. `Disk.HasFile` says what is so afterwards: the
path leads to a file with the content, its parent is there, and writing the same content again would
change nothing. This stays so while other files are written.

The file that a name joined to a directory leads to stands under that name where the directory
leads.
-/

namespace ErrorCatalog

namespace Disk

variable {disk before after : Disk} {p directory name : Text} {place : Location}
  {content : Bytes} {made written : Location → Prop}

/-! ## One file -/

/-- Overwriting succeeds exactly on a path that ends in a name, short enough and no directory. -/
theorem overwrite_eq_ok_iff :
    disk.overwrite p content = .ok after ↔
      ∃ directory name, disk.ending p = .ok (.name directory name false)
        ∧ isTooLong name = false ∧ disk.objectAt (directory ++ [name]) ≠ some .directory
        ∧ after = disk.put (directory ++ [name]) (.file content) := by
  constructor
  · intro h
    unfold overwrite at h
    split at h
    · cases h
    · cases h
    · next directory name slash hending =>
      split_ifs at h with hslash hlong
      split at h
      · cases h
      · next hobject =>
        cases h
        rw [Bool.not_eq_true] at hslash hlong
        exact ⟨directory, name, hslash ▸ hending, hlong, hobject, rfl⟩
  · rintro ⟨directory, name, hending, hshort, hobject, rfl⟩
    simp only [overwrite, hending, hshort, Bool.false_eq_true, if_false]

/-- A file with a content stands where a path leads, and all that writing it needs is there. -/
structure HasFile (disk : Disk) (p : Path) (place : Location) (content : Bytes) : Prop where
  parent : ∀ q, Path.parent? p = some q → q = [] ∨ disk.isDirectory q = true
  ending : ∃ directory name, disk.ending p = .ok (.name directory name false)
    ∧ isTooLong name = false ∧ directory ++ [name] = place
  isInPlace : disk.IsInPlace place (.file content)

namespace HasFile

theorem objectAt (h : disk.HasFile p place content) :
    disk.objectAt place = some (.file content) := by
  rcases h.ending with ⟨directory, name, -, -, rfl⟩
  exact h.isInPlace.objectAt (List.append_ne_nil_of_right_ne_nil _ (List.cons_ne_nil name []))

theorem locate (h : disk.HasFile p place content) : disk.locate p = .ok place := by
  have hobject := h.objectAt
  rcases h.ending with ⟨directory, name, hending, hshort, rfl⟩
  exact locate_of_ending hending hshort (by simp [hobject]) nofun

/-- A file that is there is read as it was written. -/
theorem readFile (h : disk.HasFile p place content) : disk.readFile p = .ok content := by
  simp [Disk.readFile, find, h.locate, h.objectAt]

/-- A file stays as it is under changes that do not write its place. -/
theorem mono (h : disk.HasFile p place content) (hchanges : ChangesOnly made written disk after)
    (hnot : ¬ written place) : after.HasFile p place content where
  parent q hparent := (h.parent q hparent).imp_right hchanges.keeps.isDirectory
  ending := by
    rcases h.ending with ⟨directory, name, hending, hshort, hplace⟩
    exact ⟨directory, name, hchanges.keeps.ending hending, hshort, hplace⟩
  isInPlace := hchanges.isInPlace place _ hnot h.isInPlace

/-- Writing the file again changes nothing. -/
theorem overwrite (h : disk.HasFile p place content) : disk.overwrite p content = .ok disk := by
  have hobject := h.objectAt
  have hplace := h.isInPlace
  rcases h.ending with ⟨directory, name, hending, hshort, rfl⟩
  refine overwrite_eq_ok_iff.2 ⟨directory, name, hending, hshort, by simp [hobject], hplace.symm⟩

end HasFile

/-! ## Files in a directory -/

/-- A name under a directory is walked from where the directory is. -/
theorem start_join (disk : Disk) (directory : Path) (hname : '/' ∉ name) :
    disk.start (Path.join directory name) = disk.start directory := by
  unfold start
  rw [Path.isAbsolute_join hname]

/-- The location of a name where a path leads. -/
def IsIn (disk : Disk) (directory : Path) (name : Text) (place : Location) : Prop :=
  ∃ home, disk.LeadsTo directory home ∧ place = home ++ [name]

/-- Names under a directory go on meaning the same places. -/
theorem IsIn.mono (h : before.IsIn directory name place) (hkeeps : Keeps before after) :
    after.IsIn directory name place := by
  rcases h with ⟨home, hleads, hplace⟩
  exact ⟨home, hleads.mono hkeeps, hplace⟩

/-- A place under a directory has one name there. -/
theorem IsIn.name_eq {other : Text} (h : disk.IsIn directory name place)
    (hother : disk.IsIn directory other place) : name = other := by
  rcases h with ⟨home, -, rfl⟩
  rcases hother with ⟨another, -, hplace⟩
  exact (List.append_singleton_inj.1 hplace).2

/-- A file written under a directory is one of its direct children. -/
theorem HasFile.isIn (h : disk.HasFile (Path.join directory name) place content)
    (hname : '/' ∉ name) (hne : name ≠ []) : disk.IsIn directory name place := by
  rcases h.ending with ⟨home, last, hending, -, rfl⟩
  rcases ending_eq_name_iff.1 hending with ⟨-, -, base', slashes, hparts', -, hwalk⟩
  rcases Path.parts_join hname hne with ⟨base, hparts, hbase⟩
  rcases hparts.unique hparts' with ⟨rfl, rfl⟩
  rw [start_join disk directory hname] at hwalk
  refine ⟨home, ?_, rfl⟩
  rcases hbase with rfl | rfl
  · exact hwalk
  · -- The slash in front of the name needs the directory, but leads nowhere else.
    rw [Text.pieces_append_sep] at hwalk
    rcases walk_append_eq_ok_iff.1 hwalk with ⟨middle, hleads, hslash⟩
    cases (walk_empty_eq_ok_iff.1 hslash).2
    exact hleads

/-- Only a name can be joined to a directory for a path that leads to a file. -/
theorem HasFile.name_ne_nil (h : disk.HasFile (Path.join directory name) place content) :
    name ≠ [] := by
  rintro rfl
  rcases h.ending with ⟨above, last, hending, -, -⟩
  rcases ending_eq_name_iff.1 hending with ⟨-, -, base, slashes, hparts, hslash, -⟩
  exact hparts.slashes_ne_nil (Path.isBase_join_nil directory) (by simpa using hslash)

/-- Only a segment that leads down can be joined to a directory for a path that leads to a file. -/
theorem HasFile.isName (h : disk.HasFile (Path.join directory name) place content)
    (hname : '/' ∉ name) : IsName name := by
  rcases h.ending with ⟨home, last, hending, -, rfl⟩
  rcases ending_eq_name_iff.1 hending with ⟨-, hlast, base', slashes, hparts', -, -⟩
  rcases Path.parts_join hname h.name_ne_nil with ⟨base, hparts, -⟩
  rcases hparts.unique hparts' with ⟨-, rfl⟩
  exact hlast

/-- What is above a file in a directory, but below the root, is on the way of the directory. -/
theorem IsAbove.isOnWay (h : disk.IsAbove (Path.join directory name) place)
    (hname : '/' ∉ name) (hplace : place ≠ []) : disk.IsOnWay directory place := by
  rcases h with ⟨q, hparent, hq, hway⟩
  rcases Path.pieces_of_parent? hparent hq with rfl | ⟨others, hothers, hpieces⟩
  · exact absurd (eq_nil_of_isOnWay_root hway) hplace
  · rcases hway with ⟨front, hfront, hwalk⟩
    -- The parent lacks the last segment at least, which is the name.
    have hupper : Text.pieces '/' q <+: (Text.pieces '/' (Path.join directory name)).dropLast := by
      rw [hpieces, List.dropLast_append_of_ne_nil hothers]
      exact List.prefix_append _ others.dropLast
    refine ⟨front, (hfront.trans hupper).trans (Path.dropLast_pieces_join hname), ?_⟩
    rwa [start_of_parent? hparent hq, start_join disk directory hname] at hwalk

/-! ## Files that are not written -/

/-- Reading succeeds exactly where the path leads to a file. -/
theorem readFile_eq_ok_iff :
    disk.readFile p = .ok content ↔
      ∃ place, disk.locate p = .ok place ∧ disk.objectAt place = some (.file content) := by
  rw [← find_eq_ok_iff]
  unfold readFile
  split
  · next hfind => simp [hfind]
  · next hfind => simp [hfind]
  · next hfind => simp [hfind]

/-- A file that is not among those written reads as before. -/
theorem ChangesOnly.readFile (h : ChangesOnly made written before after)
    (hread : before.readFile p = .ok content)
    (hnot : ∀ place, written place → before.locate p ≠ .ok place) :
    after.readFile p = .ok content := by
  rcases readFile_eq_ok_iff.1 hread with ⟨place, hlocate, hobject⟩
  refine readFile_eq_ok_iff.2 ⟨place, h.keeps.locate hlocate, h.file ?_ hobject⟩
  intro hwritten
  exact hnot place hwritten hlocate

end Disk

end ErrorCatalog
