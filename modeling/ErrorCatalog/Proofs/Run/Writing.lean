import ErrorCatalog.Proofs.Run.Effect

/-!
# Writing into one directory

Files are written one after the other under the last parts of their paths. Whatever these are, files
are written only where the output directory leads, and directories are made only on its way: a name
that is empty or made of dots ends the writing with a fault, since nothing can be written there.

A fault at one file leaves what writing the files in front of it left, but that directories may have
been made for it, and nothing of the files behind it.
-/

namespace ErrorCatalog

namespace Run

variable {directory : Path} {file : Generated.File} {files : List Generated.File}
  {paths : List Path} {workspace after : Workspace} {failure : Failure}

/-! ## One file -/

/-- A file that cannot be written leaves directories on the way of the output directory only. -/
theorem exists_of_writeFile_error
    (h : (Action.writeFile (Path.join directory file.name)
      (Text.encode file.content)).perform workspace = (.error failure, after)) :
    after = { workspace with disk := after.disk }
      ∧ Disk.ChangesOnly (after.disk.IsOnWay directory) (fun _ => False)
          workspace.disk after.disk := by
  rcases Action.exists_of_writeFile_error h with ⟨hafter, hchanges⟩
  refine ⟨hafter, hchanges.mono ?_ (fun _ => id)⟩
  intro place hnone habove
  exact habove.isOnWay file.slash_not_mem_name (Disk.ne_nil_of_objectAt_eq_none hnone)

/-! ## All files -/

/-- Writing files is writing them one by one. The induction is on the files. -/
theorem leaves_writeFiles {R : Disk → Disk → Prop} (hR : Action.CoversChanges R)
    (directory : Path) (files : List Generated.File) :
    Action.Leaves R (writeFiles directory files) := by
  induction files with
  | nil => exact Action.leaves_pure hR []
  | cons file rest ih =>
    unfold writeFiles
    refine (Action.leaves_writeFile hR _ _).bind hR fun _ => ?_
    refine ih.bind hR fun paths => ?_
    exact Action.leaves_pure hR _

theorem keepsTrees_writeFiles (directory : Path) (files : List Generated.File) :
    Action.KeepsTrees (writeFiles directory files) :=
  leaves_writeFiles Action.coversChanges_isTree directory files

/-- Files that could be written have names that lead down. -/
theorem isName_of_writeFiles
    (h : (writeFiles directory files).perform workspace = (.ok paths, after)) :
    ∀ file ∈ files, Disk.IsName file.name := by
  induction files generalizing workspace paths with
  | nil => simp
  | cons file rest ih =>
    rcases Action.perform_bind_eq_ok_iff.1 h with ⟨_, between, hwrite, h⟩
    rcases Action.perform_bind_eq_ok_iff.1 h with ⟨others, last, hrest, h⟩
    cases h
    rcases exists_of_writeFile hwrite with ⟨-, place, -, hfile, -⟩
    exact List.forall_mem_cons.2 ⟨hfile.isName file.slash_not_mem_name, ih hrest⟩

/-- Writing stopped at one of the files: those in front of it were written, and in the end
directories may have been made for it. -/
structure StoppedAt (directory : Path) (front : List Generated.File) (file : Generated.File)
    (before between : Workspace) (failure : Failure) (after : Workspace) : Prop where
  front : (writeFiles directory front).perform before
    = (.ok (front.map fun file => Path.join directory file.name), between)
  failure : (Action.writeFile (Path.join directory file.name)
    (Text.encode file.content)).perform between = (.error failure, after)
  workspace : after = { between with disk := after.disk }
  changesOnly : Disk.ChangesOnly (after.disk.IsOnWay directory) (fun _ => False)
    between.disk after.disk

/-- A file written in front of those before the stop moves the stop on by one. -/
theorem StoppedAt.cons {first : Generated.File} {front : List Generated.File}
    {middle between : Workspace}
    (hwrite : (Action.writeFile (Path.join directory first.name)
      (Text.encode first.content)).perform workspace = (.ok (), middle))
    (h : StoppedAt directory front file middle between failure after) :
    StoppedAt directory (first :: front) file workspace between failure after where
  front := by
    simp only [writeFiles, Action.perform_bind, hwrite, h.front]
    rfl
  failure := h.failure
  workspace := h.workspace
  changesOnly := h.changesOnly

/-- Where writing fails, one file is the first that could not be written. -/
theorem exists_stoppedAt
    (h : (writeFiles directory files).perform workspace = (.error failure, after)) :
    ∃ front file rest between, files = front ++ file :: rest
      ∧ StoppedAt directory front file workspace between failure after := by
  induction files generalizing workspace with
  | nil => cases h
  | cons file rest ih =>
    simp only [writeFiles, Action.perform_bind] at h
    cases hwrite : (Action.writeFile (Path.join directory file.name)
        (Text.encode file.content)).perform workspace with
    | mk result middle =>
      simp only [hwrite] at h
      cases result with
      | error fault =>
        cases h
        rcases exists_of_writeFile_error hwrite with ⟨hafter, hchanges⟩
        -- The first file could not be written: the stop is here.
        exact ⟨[], file, rest, workspace, rfl, rfl, hwrite, hafter, hchanges⟩
      | ok value =>
        cases hothers : (writeFiles directory rest).perform middle with
        | mk result last =>
          simp only [hothers] at h
          cases result with
          | ok others => cases h
          | error fault =>
            cases h
            -- It was written, so the stop is among the others.
            rcases ih hothers with ⟨front, stopped, behind, between, rfl, hstopped⟩
            exact ⟨file :: front, stopped, behind, between, rfl, hstopped.cons hwrite⟩

/-! ## Any outcome -/

/-- What writing files into a directory does, whether it succeeds or fails. -/
structure Writes (directory : Path) (files : List Generated.File) (before : Workspace)
    (result : Except Failure (List Path)) (after : Workspace) : Prop where
  workspace : after = { before with disk := after.disk }
  -- Files are written only in the directory that the path of the directory leads to, under their
  -- names; directories are made only on the way there, where nothing stood.
  changesOnly : Disk.ChangesOnly (after.disk.IsOnWay directory)
    (fun place => ∃ file ∈ files, after.disk.IsIn directory file.name place)
    before.disk after.disk
  isTree : before.disk.IsTree → after.disk.IsTree
  paths : ∀ paths, result = .ok paths → paths = files.map fun file => Path.join directory file.name
  isName : ∀ paths, result = .ok paths → ∀ file ∈ files, Disk.IsName file.name
  -- Of several files with one name the last counts.
  content : ∀ paths, result = .ok paths → ∀ front file rest, files = front ++ file :: rest →
    (∀ later ∈ rest, later.name ≠ file.name) →
    after.disk.readFile (Path.join directory file.name) = .ok (Text.encode file.content)
  stopped : ∀ failure, result = .error failure → ∃ front file rest between,
    files = front ++ file :: rest ∧ StoppedAt directory front file before between failure after

/-- A success has written all files. -/
theorem writes_of_ok (h : (writeFiles directory files).perform workspace = (.ok paths, after)) :
    Writes directory files workspace (.ok paths) after := by
  rcases wroteFiles_of_writeFiles h with ⟨hpaths, hafter, hwrote⟩
  have htree := keepsTrees_writeFiles directory files h
  refine ⟨hafter, hwrote.changesOnly, htree, ?_, fun _ _ => isName_of_writeFiles h, ?_, nofun⟩
  · rintro _ ⟨⟩
    exact hpaths
  · intro _ _ front file rest heq hlast
    rcases hwrote.hasFile front file rest heq hlast with ⟨place, -, hfile⟩
    exact hfile.readFile

/-- A failure has written the files before the one that failed. -/
theorem writes_of_error
    (h : (writeFiles directory files).perform workspace = (.error failure, after)) :
    Writes directory files workspace (.error failure) after := by
  rcases exists_stoppedAt h with ⟨front, file, rest, between, hfiles, hstopped⟩
  rcases wroteFiles_of_writeFiles hstopped.front with ⟨-, hbetween, hwrote⟩
  have hkeeps := hstopped.changesOnly.keeps
  have htree := keepsTrees_writeFiles directory files h
  refine ⟨by rw [hstopped.workspace, hbetween], ?_, htree, nofun, nofun, nofun, ?_⟩
  · -- What the files in front changed, and the directories that were made for the one that failed.
    refine (hwrote.changesOnly.mono ?_ ?_).trans (hstopped.changesOnly.mono (fun _ _ => id) nofun)
    · intro place _ hway
      exact hway.mono hkeeps
    · rintro place ⟨written, hmem, hin⟩
      exact ⟨written, hfiles ▸ List.mem_append_left _ hmem, hin.mono hkeeps⟩
  · rintro _ ⟨⟩
    exact ⟨front, file, rest, between, hfiles, hstopped⟩

/-- Writing files into a directory has an outcome for all paths and names, and does what `Writes`
says: it is confined to the directory, and stops at the first file that cannot be written. -/
theorem writeFiles_confined (directory : Path) (files : List Generated.File)
    (workspace : Workspace) :
    ∃ result after, (writeFiles directory files).perform workspace = (result, after)
      ∧ Writes directory files workspace result after := by
  rcases hperform : (writeFiles directory files).perform workspace with
    ⟨⟨failure⟩ | ⟨paths⟩, after⟩
  · exact ⟨.error failure, after, rfl, writes_of_error hperform⟩
  · exact ⟨.ok paths, after, rfl, writes_of_ok hperform⟩

end Run

end ErrorCatalog
