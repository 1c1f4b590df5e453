import ErrorCatalog.Proofs.Disk.Tree
import ErrorCatalog.Workspace
/-!
# Performing actions

What each action does to a workspace, as equations for `Action.perform`. Two actions in sequence are
performed one after the other, and a failure of the first is the failure of both.

Writing to a path changes the disk only. Directories are made above the path, and when all went well
there is a file with the content where the path leads; writing it again does nothing.

A relation between disks that covers the single changes, `Action.CoversChanges`, covers whatever an
action put together from them leaves: `Action.Leaves` is closed under sequence.
-/

namespace ErrorCatalog

namespace Action

variable {α β : Type} (workspace : Workspace)

@[simp]
theorem perform_pure (value : α) :
    (pure value : Action α).perform workspace = (.ok value, workspace) := rfl

@[simp]
theorem perform_throw (failure : Failure) :
    (throw failure : Action α).perform workspace = (.error failure, workspace) := rfl

@[simp]
theorem perform_get : (get : Action Workspace).perform workspace = (.ok workspace, workspace) := rfl

/-- The second action sees what the first has left, and is not run after a failure. -/
theorem perform_bind (action : Action α) (next : α → Action β) :
    (action >>= next).perform workspace =
      match action.perform workspace with
      | (.ok value, after) => (next value).perform after
      | (.error failure, after) => (.error failure, after) := by
  simp only [perform, ExceptT.run, StateT.run, bind, ExceptT.bind, ExceptT.mk, StateT.bind]
  cases action workspace with
  | mk result after =>
    cases result with
    | ok value => rfl
    | error failure => rfl

/-- Two actions succeed together exactly if each does where it is run. -/
theorem perform_bind_eq_ok_iff {action : Action α} {next : α → Action β}
    {workspace after : Workspace} {result : β} :
    (action >>= next).perform workspace = (.ok result, after) ↔
      ∃ value between, action.perform workspace = (.ok value, between)
        ∧ (next value).perform between = (.ok result, after) := by
  rw [perform_bind]
  rcases action.perform workspace with ⟨⟨failure⟩ | ⟨value⟩, between⟩
  · simp
  · simp

@[simp]
theorem perform_warn (warning : Warning) :
    (warn warning).perform workspace =
      (.ok (), { workspace with warnings := workspace.warnings ++ [warning] }) := rfl

@[simp]
theorem perform_warnAll (warnings : List Warning) :
    (warnAll warnings).perform workspace =
      (.ok (), { workspace with warnings := workspace.warnings ++ warnings }) := rfl

@[simp]
theorem perform_print (texts : List Text) :
    (print texts).perform workspace =
      (.ok (), { workspace with printed := workspace.printed ++ texts }) := rfl

@[simp]
theorem perform_setDisk (disk : Disk) :
    (setDisk disk).perform workspace = (.ok (), { workspace with disk := disk }) := rfl

@[simp]
theorem perform_ofExcept (result : Except Failure α) :
    (ofExcept result).perform workspace = (result, workspace) := by
  cases result with
  | ok value => rfl
  | error failure => rfl

theorem perform_readFile (p : Path) :
    (readFile p).perform workspace =
      match workspace.disk.readFile p with
      | .ok content => (.ok content, workspace)
      | .error fault => (.error (.disk p fault), workspace) := by
  simp only [readFile, perform_bind, perform_get]
  cases workspace.disk.readFile p with
  | ok content => rfl
  | error fault => rfl

/-! ## Writing -/

theorem perform_makeParent (p : Path) :
    (makeParent p).perform workspace =
      match Path.parent? p with
      | none => (.ok (), workspace)
      | some parent =>
        match workspace.disk.makeDirectories parent with
        | (.ok (), disk) => (.ok (), { workspace with disk := disk })
        | (.error fault, disk) =>
            (.error (.disk parent fault), { workspace with disk := disk }) := by
  unfold makeParent
  cases Path.parent? p with
  | none => rfl
  | some parent =>
    simp only [perform_bind, perform_get, perform_setDisk]
    cases workspace.disk.makeDirectories parent with
    | mk result disk =>
      cases result with
      | ok value => rfl
      | error fault => rfl

theorem perform_writeFile (p : Path) (content : Bytes) :
    (writeFile p content).perform workspace =
      match (makeParent p).perform workspace with
      | (.error failure, after) => (.error failure, after)
      | (.ok (), after) =>
        match after.disk.overwrite p content with
        | .ok disk => (.ok (), { after with disk := disk })
        | .error fault => (.error (.disk p fault), after) := by
  simp only [writeFile, perform_bind, perform_get]
  cases (makeParent p).perform workspace with
  | mk result after =>
    cases result with
    | error failure => rfl
    | ok value =>
      simp only
      cases after.disk.overwrite p content with
      | ok disk => rfl
      | error fault => rfl

/-- A failure that writing to a path can have: a fault of the path itself or of the directory that
it stands in. -/
def IsWriteFailure (p : Path) (failure : Failure) : Prop :=
  ∃ place fault, failure = .disk place fault ∧ (place = p ∨ Path.parent? p = some place)

/-- A directory that cannot be made is a failure to write the file. -/
theorem isWriteFailure_of_makeParent {p : Path} {failure : Failure} {workspace after : Workspace}
    (h : (makeParent p).perform workspace = (.error failure, after)) :
    IsWriteFailure p failure := by
  rw [perform_makeParent] at h
  cases hparent : Path.parent? p with
  | none =>
    rw [hparent] at h
    cases h
  | some parent =>
    rw [hparent] at h
    cases hmade : workspace.disk.makeDirectories parent with
    | mk result disk =>
      simp only [hmade] at h
      cases result with
      | ok value => cases h
      | error fault =>
        cases h
        -- The failure names the parent, not the file.
        exact ⟨parent, fault, rfl, .inr hparent⟩

/-- Writing fails in no other way. -/
theorem isWriteFailure_of_writeFile {p : Path} {content : Bytes} {failure : Failure}
    {workspace after : Workspace}
    (h : (writeFile p content).perform workspace = (.error failure, after)) :
    IsWriteFailure p failure := by
  rw [perform_writeFile] at h
  cases hmade : (makeParent p).perform workspace with
  | mk result between =>
    simp only [hmade] at h
    cases result with
    | error fault =>
      cases h
      exact isWriteFailure_of_makeParent hmade
    | ok value =>
      cases hwrite : between.disk.overwrite p content with
      | ok disk =>
        simp only [hwrite] at h
        cases h
      | error fault =>
        simp only [hwrite] at h
        cases h
        exact ⟨p, fault, rfl, .inl rfl⟩

/-! ## What writing changes -/

variable {p : Path} {content : Bytes} {workspace after : Workspace} {place : Location}

/-- Making way for a file changes only what is above it. -/
theorem exists_of_makeParent {result : Except Failure Unit}
    (h : (makeParent p).perform workspace = (result, after)) :
    after = { workspace with disk := after.disk }
      ∧ Disk.ChangesOnly (after.disk.IsAbove p) (fun _ => False) workspace.disk after.disk
      ∧ (result = .ok () → ∀ q, Path.parent? p = some q →
          q = [] ∨ after.disk.isDirectory q = true) := by
  rw [perform_makeParent] at h
  cases hparent : Path.parent? p with
  | none =>
    rw [hparent] at h
    cases h
    exact ⟨rfl, .refl workspace.disk, nofun⟩
  | some parent =>
    rw [hparent] at h
    have hway := workspace.disk.makesWay_makeDirectories parent
    cases hmade : workspace.disk.makeDirectories parent with
    | mk outcome disk =>
      rw [hmade] at hway
      -- Making a directory makes those on its way, which are above the file. This holds after a
      -- failure too.
      have hchanges : Disk.ChangesOnly (disk.IsAbove p) (fun _ => False) workspace.disk disk := by
        refine hway.changesOnly.mono ?_ (fun _ => id)
        rintro other - ⟨hne, hother⟩
        exact ⟨parent, hparent, hne, hother⟩
      simp only [hmade] at h
      cases outcome with
      | error fault =>
        cases h
        exact ⟨rfl, hchanges, nofun⟩
      | ok value =>
        cases h
        refine ⟨rfl, hchanges, ?_⟩
        intro _ q hq
        cases hq
        exact hway.isDirectory rfl

/-- Writing a file changes its place and what is above it. -/
theorem exists_of_writeFile (h : (writeFile p content).perform workspace = (.ok (), after)) :
    after = { workspace with disk := after.disk }
      ∧ ∃ place, after.disk.HasFile p place content
        ∧ Disk.ChangesOnly (after.disk.IsAbove p) (fun other => other = place)
            workspace.disk after.disk := by
  rcases perform_bind_eq_ok_iff.1 h with ⟨_, between, hmade, hrest⟩
  rcases perform_bind_eq_ok_iff.1 hrest with ⟨_, _, hget, hlast⟩
  cases hget
  -- First the directories are made, then the file is put there.
  rcases exists_of_makeParent hmade with ⟨hbetween, hchanges, hparent⟩
  cases hwrite : between.disk.overwrite p content with
  | error fault =>
    simp only [hwrite] at hlast
    cases hlast
  | ok disk =>
    simp only [hwrite] at hlast
    cases hlast
    rcases Disk.overwrite_eq_ok_iff.1 hwrite with ⟨directory, name, hending, hshort, hobject, rfl⟩
    -- Seen from the disk in between, only the place of the file changes.
    have hfile : Disk.ChangesOnly
        ((between.disk.put (directory ++ [name]) (.file content)).IsAbove p)
        (fun other => other = directory ++ [name]) between.disk
        (between.disk.put (directory ++ [name]) (.file content)) := by
      refine Disk.changesOnly_put_file hobject ?_ content
      rfl
    refine ⟨by rw [hbetween], directory ++ [name], ⟨?_, ?_, ?_⟩, ?_⟩
    · intro q hq
      exact (hparent rfl q hq).imp_right hfile.keeps.isDirectory
    · exact ⟨directory, name, hfile.keeps.ending hending, hshort, rfl⟩
    -- A second write of the same content would find it in place.
    · exact Disk.isInPlace_put between.disk _ _
    · refine (hchanges.mono ?_ nofun).trans hfile
      intro other _ habove
      exact habove.mono hfile.keeps

/-- When writing fails, directories above the path are all that it may have made. -/
theorem exists_of_writeFile_error {failure : Failure}
    (h : (writeFile p content).perform workspace = (.error failure, after)) :
    after = { workspace with disk := after.disk }
      ∧ Disk.ChangesOnly (after.disk.IsAbove p) (fun _ => False) workspace.disk after.disk := by
  rw [perform_writeFile] at h
  cases hmade : (makeParent p).perform workspace with
  | mk result between =>
    rcases exists_of_makeParent hmade with ⟨hbetween, hchanges, -⟩
    simp only [hmade] at h
    cases result with
    | error fault =>
      cases h
      exact ⟨hbetween, hchanges⟩
    | ok value =>
      cases hwrite : between.disk.overwrite p content with
      | ok disk =>
        simp only [hwrite] at h
        cases h
      | error fault =>
        simp only [hwrite] at h
        cases h
        exact ⟨hbetween, hchanges⟩

/-- Writing a file that is there already changes nothing. -/
theorem perform_writeFile_of_hasFile (h : workspace.disk.HasFile p place content) :
    (writeFile p content).perform workspace = (.ok (), workspace) := by
  have hparent : (makeParent p).perform workspace = (.ok (), workspace) := by
    rw [perform_makeParent]
    cases hq : Path.parent? p with
    | none => rfl
    | some parent =>
      -- The parent is empty or is a directory already; in both cases none is made.
      have hmade : workspace.disk.makeDirectories parent = (.ok (), workspace.disk) := by
        rcases h.parent parent hq with rfl | hdirectory
        · unfold Disk.makeDirectories
          rfl
        · exact Disk.makeDirectories_of_isDirectory hdirectory
      simp only [hmade]
  simp only [perform_writeFile, hparent, h.overwrite]

/-! ## What actions leave -/

/-- A relation between earlier and later disks that covers each single change and any changes one
after the other. -/
structure CoversChanges (R : Disk → Disk → Prop) : Prop where
  refl : ∀ disk, R disk disk
  trans : ∀ {before between after}, R before between → R between after → R before after
  makeDirectory : ∀ {disk after p}, disk.makeDirectory p = .ok after → R disk after
  overwrite : ∀ {disk after p content}, disk.overwrite p content = .ok after → R disk after

/-- The disk that the action leaves is related to the one it found, whether it succeeds or fails. -/
def Leaves (R : Disk → Disk → Prop) (action : Action α) : Prop :=
  ∀ ⦃workspace result after⦄, action.perform workspace = (result, after) →
    R workspace.disk after.disk

section Leaves

variable {R : Disk → Disk → Prop}

/-- Directories are made one by one, from the first that is there already down to the path. -/
theorem CoversChanges.makeDirectories (hR : CoversChanges R) (disk : Disk) (p : Path) :
    R disk (disk.makeDirectories p).2 := by
  -- The cases follow the recursion to the parent; a directory is made in two of them only.
  fun_induction Disk.makeDirectories disk p with
  | case1 p hempty => exact hR.refl disk
  | case2 p hempty made hmake => exact hR.makeDirectory hmake
  | case3 p => exact hR.refl disk
  | case4 p hempty hmake parent hparent hlength fault changed hchanged ih =>
    rwa [hchanged] at ih
  | case5 p hempty hmake parent hparent hlength changed hchanged made hmade ih =>
    rw [hchanged] at ih
    exact hR.trans ih (hR.makeDirectory hmade)
  | case6 p hempty hmake parent hparent hlength changed hchanged fault hmade ih =>
    rwa [hchanged] at ih
  | case7 p hempty fault hfault hmake => exact hR.refl disk

/-- An action that leaves the disk alone leaves every such relation. -/
theorem leaves_of_disk_eq (hR : CoversChanges R) {action : Action α}
    (h : ∀ workspace, (action.perform workspace).2.disk = workspace.disk) : Leaves R action := by
  intro workspace result after hperform
  have hsame := h workspace
  rw [hperform] at hsame
  rw [hsame]
  exact hR.refl workspace.disk

theorem leaves_pure (hR : CoversChanges R) (value : α) : Leaves R (pure value) :=
  leaves_of_disk_eq hR fun _ => rfl

theorem leaves_get (hR : CoversChanges R) : Leaves R (get : Action Workspace) :=
  leaves_of_disk_eq hR fun _ => rfl

theorem leaves_warn (hR : CoversChanges R) (warning : Warning) : Leaves R (warn warning) :=
  leaves_of_disk_eq hR fun _ => rfl

theorem leaves_ofExcept (hR : CoversChanges R) (result : Except Failure α) :
    Leaves R (ofExcept result) := by
  refine leaves_of_disk_eq hR fun workspace => ?_
  rw [perform_ofExcept]

/-- An action and the one that follows it leave what both of them may; if the first fails, the
second does not come into it. -/
theorem Leaves.bind (hR : CoversChanges R) {action : Action α} {next : α → Action β}
    (h : Leaves R action) (hnext : ∀ value, Leaves R (next value)) :
    Leaves R (action >>= next) := by
  intro workspace result after hperform
  rw [perform_bind] at hperform
  cases hfirst : action.perform workspace with
  | mk outcome between =>
    have hbetween := h hfirst
    rw [hfirst] at hperform
    cases outcome with
    | ok value => exact hR.trans hbetween (hnext value hperform)
    | error failure =>
      cases hperform
      exact hbetween

theorem leaves_makeParent (hR : CoversChanges R) (p : Path) : Leaves R (makeParent p) := by
  intro workspace result after hperform
  rw [perform_makeParent] at hperform
  cases hparent : Path.parent? p with
  | none =>
    rw [hparent] at hperform
    cases hperform
    exact hR.refl workspace.disk
  | some parent =>
    have hmade := hR.makeDirectories workspace.disk parent
    rw [hparent] at hperform
    cases hresult : workspace.disk.makeDirectories parent with
    | mk outcome disk =>
      rw [hresult] at hmade
      simp only [hresult] at hperform
      cases outcome with
      | ok value =>
        cases hperform
        exact hmade
      | error fault =>
        cases hperform
        exact hmade

theorem leaves_writeFile (hR : CoversChanges R) (p : Path) (content : Bytes) :
    Leaves R (writeFile p content) := by
  intro workspace result after hperform
  rw [perform_writeFile] at hperform
  cases hmade : (makeParent p).perform workspace with
  | mk outcome between =>
    -- What making the parent did stays done, whatever the write does.
    have hbetween := leaves_makeParent hR p hmade
    simp only [hmade] at hperform
    cases outcome with
    | error failure =>
      cases hperform
      exact hbetween
    | ok value =>
      cases hwrite : between.disk.overwrite p content with
      | ok disk =>
        simp only [hwrite] at hperform
        cases hperform
        exact hR.trans hbetween (hR.overwrite hwrite)
      | error fault =>
        simp only [hwrite] at hperform
        cases hperform
        exact hbetween

end Leaves

/-! ## Trees -/

def KeepsTrees (action : Action α) : Prop :=
  Leaves (fun before after => before.IsTree → after.IsTree) action

theorem coversChanges_isTree :
    CoversChanges fun before after => before.IsTree → after.IsTree where
  refl _ := id
  trans h h' htree := h' (h htree)
  makeDirectory hmake htree := htree.makeDirectory hmake
  overwrite hwrite htree := htree.overwrite hwrite

end Action

end ErrorCatalog
