import ErrorCatalog.Proofs.Disk.Removals
import ErrorCatalog.Proofs.Run.Writing
import ErrorCatalog.Proofs.Starter
/-!
# Nothing is removed

A run makes directories and writes files, and so does the creation of a starter schema. Neither ever
takes a file or a directory away or turns one into the other, whether it succeeds or fails.
-/

namespace ErrorCatalog

/-- All changes that actions make are bounded ones. -/
theorem Action.coversChanges_changesOnly :
    CoversChanges (Disk.ChangesOnly (fun _ => True) fun _ => True) where
  refl := .refl
  trans := .trans
  makeDirectory hmake := by
    rcases Disk.exists_of_makeDirectory hmake with ⟨place, hnone, rfl, -⟩
    exact Disk.changesOnly_put_directory hnone trivial
  overwrite hwrite := by
    rcases Disk.overwrite_eq_ok_iff.1 hwrite with ⟨directory, name, -, -, hobject, rfl⟩
    exact Disk.changesOnly_put_file hobject trivial _

theorem Action.coversChanges_isTable :
    CoversChanges fun before after => before.IsTable → after.IsTable where
  refl _ := id
  trans h h' htable := h' (h htable)
  makeDirectory hmake htable := by
    rcases Disk.exists_of_makeDirectory hmake with ⟨place, hnone, rfl, -⟩
    exact htable.put (Disk.ne_nil_of_objectAt_eq_none hnone) _
  overwrite hwrite htable := by
    rcases Disk.overwrite_eq_ok_iff.1 hwrite with ⟨directory, name, -, -, hobject, rfl⟩
    exact htable.put (Disk.ne_nil_of_objectAt_ne_directory hobject) _

theorem Source.leaves_load {R : Disk → Disk → Prop} (hR : Action.CoversChanges R)
    (source : Source) : Action.Leaves R source.load := by
  refine Action.leaves_of_disk_eq hR fun workspace => ?_
  rw [Run.perform_load]
  cases workspace.disk.readFile source.path with
  | error fault => rfl
  | ok content => rfl

namespace Run

/-- A relation that covers all changes of a disk covers those of a run. -/
theorem leaves_runWith {R : Disk → Disk → Prop} (hR : Action.CoversChanges R)
    (registry : Registry) (options : Options) : Action.Leaves R (runWith registry options) := by
  unfold runWith
  refine (Action.leaves_ofExcept hR _).bind hR fun framework => ?_
  refine (options.input.leaves_load hR).bind hR fun entries => ?_
  split_ifs
  · exact (Action.leaves_warn hR _).bind hR fun _ => Action.leaves_pure hR none
  · refine (Action.leaves_ofExcept hR _).bind hR fun files => ?_
    refine (leaves_writeFiles hR _ files).bind hR fun paths => ?_
    exact Action.leaves_pure hR _

/-- A run removes nothing, however it ends, and the next run finds a table again. -/
theorem removals_runWith (registry : Registry) (options : Options) (workspace : Workspace)
    (h : workspace.disk.IsTable) :
    Disk.removals workspace.disk ((runWith registry options).perform workspace).2.disk = []
      ∧ ((runWith registry options).perform workspace).2.disk.IsTable := by
  constructor
  · have hchanges := leaves_runWith Action.coversChanges_changesOnly registry options
    exact (hchanges rfl).removals_eq_nil h
  · exact leaves_runWith Action.coversChanges_isTable registry options rfl h

end Run

/-- Creating a starter schema removes nothing, not even where it overwrites a file. -/
theorem Starter.removals_create (path : Path) (workspace : Workspace)
    (h : workspace.disk.IsTable) :
    Disk.removals workspace.disk ((create path).perform workspace).2.disk = []
      ∧ ((create path).perform workspace).2.disk.IsTable := by
  constructor
  · have hchanges := leaves_create Action.coversChanges_changesOnly path
    exact (hchanges rfl).removals_eq_nil h
  · exact leaves_create Action.coversChanges_isTable path rfl h

end ErrorCatalog
