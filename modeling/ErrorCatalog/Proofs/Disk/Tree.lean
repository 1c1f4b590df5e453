import ErrorCatalog.Proofs.Disk.Directories
import ErrorCatalog.Proofs.Disk.Files

/-!
# Trees

A disk is a *tree* when whatever stands somewhere stands in a directory. The operations that change
a disk put things only into directories that are there, so they make trees of trees.

In a tree a location cannot be reached before its directories are there. So a walk without two dots
that leads to something on a changed disk leads there before the change already, if it stood there
then. Two dots spoil this: they lead out of a directory that was made on the way, to something that
no walk over the same segments could reach before. The dots of a path are *settled* when they all
stand in a front of the path that leads somewhere.
-/

namespace ErrorCatalog

namespace Disk

variable {disk before after : Disk} {place above next directory : Location} {object : Object}
  {p name : Text} {slash : Bool} {content : Bytes} {segments : List Text}
  {made written : Location → Prop}

/-! ## Trees -/

/-- Whatever stands somewhere stands in a directory. -/
def IsTree (disk : Disk) : Prop :=
  ∀ row ∈ disk.objects, disk.objectAt row.1.dropLast = some .directory

instance (disk : Disk) : Decidable disk.IsTree :=
  inferInstanceAs (Decidable (∀ row ∈ disk.objects,
    disk.objectAt row.1.dropLast = some .directory))

namespace IsTree

/-- Whatever is present lies in a directory. -/
theorem objectAt_dropLast (h : disk.IsTree) (hpresent : disk.objectAt place ≠ none) :
    disk.objectAt place.dropLast = some .directory := by
  rcases Option.ne_none_iff_exists'.1 hpresent with ⟨object, hobject⟩
  by_cases hroot : place = []
  · rw [hroot]
    rfl
  · have hget : SortedTable.get? disk.objects place = some object := by
      simpa [objectAt, hroot] using hobject
    exact h (place, object) (SortedTable.mem_of_get?_eq_some hget)

/-- All that is above something is a directory. -/
theorem objectAt_of_prefix (h : disk.IsTree) (hpresent : disk.objectAt place ≠ none)
    (hbelow : above <+: place) (hne : above ≠ place) :
    disk.objectAt above = some .directory := by
  rcases hbelow with ⟨rest, rfl⟩
  induction rest using List.reverseRecOn with
  | nil => exact absurd (List.append_nil above).symm hne
  | append_singleton rest last ih =>
    have hparent : disk.objectAt (above ++ rest) = some .directory := by
      have hdropped := h.objectAt_dropLast hpresent
      rwa [← List.append_assoc, List.dropLast_concat] at hdropped
    cases rest with
    | nil => rwa [List.append_nil] at hparent
    | cons first rest => exact ih (by simp [hparent]) (by simp)

/-- An object in an existing directory keeps the tree, if it does not replace a directory by a
file. -/
theorem put (h : disk.IsTree) (hne : place ≠ [])
    (hparent : disk.objectAt place.dropLast = some .directory)
    (hkeeps : disk.objectAt place = some .directory → object = .directory) :
    (disk.put place object).IsTree := by
  -- A directory is still one: if it stood at the place itself, then the object is a directory.
  have hstill : ∀ other, disk.objectAt other = some .directory →
      (disk.put place object).objectAt other = some .directory := by
    intro other hother
    rw [objectAt_put disk place other object hne]
    split_ifs with heq
    · subst heq
      rw [hkeeps hother]
    · exact hother
  intro row hrow
  rcases SortedTable.mem_of_mem_put hrow with rfl | hrow
  · exact hstill _ hparent
  · exact hstill _ (h row hrow)

end IsTree

/-! ## Operations on trees -/

/-- The name at the end of a path is looked for in a directory. -/
theorem objectAt_of_ending (h : disk.ending p = .ok (.name directory name slash)) :
    disk.objectAt directory = some .directory := by
  rcases ending_eq_name_iff.1 h with ⟨-, -, base, slashes, hparts, -, hwalk⟩
  rcases hparts.exists_pieces with ⟨front, hbase, -⟩
  rw [hbase, walk_append_eq_ok_iff] at hwalk
  rcases hwalk with ⟨middle, -, hlast⟩
  rcases walk_empty_eq_ok_iff.1 hlast with ⟨hmiddle, hsame⟩
  cases hsame
  exact hmiddle

/-- Making a directory keeps the tree, for its parent was walked through. -/
theorem IsTree.makeDirectory (h : disk.IsTree) (hmake : disk.makeDirectory p = .ok after) :
    after.IsTree := by
  unfold Disk.makeDirectory at hmake
  split at hmake
  · cases hmake
  · cases hmake
  · next directory name slash hending =>
    split_ifs at hmake
    split at hmake
    · cases hmake
    · next hnone =>
      cases hmake
      refine h.put (ne_nil_of_objectAt_eq_none hnone) ?_ (fun _ => rfl)
      rw [List.dropLast_concat]
      exact objectAt_of_ending hending

/-- Overwriting a file keeps the tree. -/
theorem IsTree.overwrite (h : disk.IsTree) (hwrite : disk.overwrite p content = .ok after) :
    after.IsTree := by
  rcases overwrite_eq_ok_iff.1 hwrite with ⟨directory, name, hending, -, hobject, rfl⟩
  refine h.put (ne_nil_of_objectAt_ne_directory hobject) ?_ (fun hdirectory => ?_)
  · rw [List.dropLast_concat]
    exact objectAt_of_ending hending
  · exact absurd hdirectory hobject

/-! ## Walks without two dots -/

/-- Without two dots a walk leads down only. -/
theorem prefix_of_walk (hdots : ['.', '.'] ∉ segments)
    (h : disk.walk place segments = .ok next) : place <+: next := by
  induction segments generalizing place with
  | nil =>
    cases h
    exact List.prefix_rfl
  | cons segment segments ih =>
    have hrest := List.not_mem_of_not_mem_cons hdots
    rcases isIdle_or_isName (List.ne_of_not_mem_cons hdots).symm with hidle | hname
    · exact ih hrest ((walk_idle_eq_ok_iff hidle).1 h).2
    · have hbelow := ih hrest ((walk_name_eq_ok_iff hname).1 h).2.2.2
      exact (List.prefix_append place [segment]).trans hbelow

/-- What stood somewhere is a directory now only if it was one. -/
theorem ChangesOnly.objectAt_of_present (h : ChangesOnly made written before after)
    (hpresent : before.objectAt place ≠ none) (hafter : after.objectAt place = some .directory) :
    before.objectAt place = some .directory := by
  rcases h.objectAt place with hsame | ⟨-, hnone, -⟩ | ⟨-, -, content, hfile⟩
  · rw [← hsame, hafter]
  · exact absurd hnone hpresent
  · rw [hfile] at hafter
    cases hafter

/-- Where a walk without two dots leads to something old, it led there before. -/
theorem ChangesOnly.walk_of_present (h : ChangesOnly made written before after)
    (htree : before.IsTree) (hdots : ['.', '.'] ∉ segments)
    (hpresent : before.objectAt next ≠ none) (hwalk : after.walk place segments = .ok next) :
    before.walk place segments = .ok next := by
  -- Whatever is above a thing that was there was there as well, since the disk was a tree.
  have hold : ∀ above, above <+: next → before.objectAt above ≠ none := by
    intro above hbelow
    by_cases heq : above = next
    · rwa [heq]
    · simp [htree.objectAt_of_prefix hpresent hbelow heq]
  induction segments generalizing place with
  | nil => exact hwalk
  | cons segment segments ih =>
    -- Without two dots the walk only goes down, so every place on it is above its end.
    have hplace : before.objectAt place = some .directory :=
      h.objectAt_of_present (hold place (prefix_of_walk hdots hwalk)) (objectAt_of_walk_cons hwalk)
    have hrest := List.not_mem_of_not_mem_cons hdots
    rcases isIdle_or_isName (List.ne_of_not_mem_cons hdots).symm with hidle | hname
    · have hbehind := ((walk_idle_eq_ok_iff hidle).1 hwalk).2
      exact (walk_idle_eq_ok_iff hidle).2 ⟨hplace, ih hrest hbehind⟩
    · rcases (walk_name_eq_ok_iff hname).1 hwalk with ⟨-, hshort, -, hbehind⟩
      refine (walk_name_eq_ok_iff hname).2 ⟨hplace, hshort, ?_, ih hrest hbehind⟩
      exact hold _ (prefix_of_walk hrest hbehind)

/-! ## Settled dots -/

/-- The path has a front that leads somewhere, with no two dots behind it. -/
def DotsSettled (disk : Disk) (p : Path) : Prop :=
  ∃ front rest place, Text.pieces '/' p = front ++ rest
    ∧ disk.walk (disk.start p) front = .ok place ∧ ['.', '.'] ∉ rest

/-- With settled dots no change opens a new way to a thing that was there before. -/
theorem ChangesOnly.locate_of_present (h : ChangesOnly made written before after)
    (htree : before.IsTree) (hdots : before.DotsSettled p)
    (hpresent : before.objectAt place ≠ none) (hlocate : after.locate p = .ok place) :
    before.locate p = .ok place := by
  rcases locate_eq_ok_iff.1 hlocate with ⟨hcheck, hleads⟩
  refine locate_eq_ok_iff.2 ⟨hcheck, ?_⟩
  rcases hdots with ⟨front, rest, middle, hpieces, hfront, hrest⟩
  unfold LeadsTo at hleads ⊢
  rw [hpieces, walk_append_eq_ok_iff] at hleads ⊢
  rw [h.keeps.start] at hleads
  rcases hleads with ⟨reached, hreached, hbehind⟩
  -- The front leads to the same place on both disks.
  cases (h.keeps.walk hfront).symm.trans hreached
  exact ⟨middle, hfront, h.walk_of_present htree hrest hpresent hbehind⟩

theorem exists?_iff :
    disk.exists? p = true ↔ ∃ place, disk.locate p = .ok place ∧ disk.objectAt place ≠ none := by
  have hfound : disk.exists? p = true ↔ ∃ object, disk.find p = .ok object := by
    unfold exists?
    cases disk.find p with
    | ok object => simp
    | error fault => simp
  simp only [hfound, find_eq_ok_iff, Option.ne_none_iff_exists']
  constructor
  · rintro ⟨object, place, hlocate, hobject⟩
    exact ⟨place, hlocate, object, hobject⟩
  · rintro ⟨place, hlocate, object, hobject⟩
    exact ⟨object, place, hlocate, hobject⟩

end Disk

end ErrorCatalog
