import ErrorCatalog.CommandLine.Session
import ErrorCatalog.Proofs.Workspace
/-!
# What was printed before

No action looks at the texts that were printed before it: behind other texts it does the same, and
adds its own. `IsPrintBlind` says so of an action. It holds of each single action, of two in
sequence, and so of everything that a command does.
-/

namespace ErrorCatalog

def Workspace.behind (texts : List Text) (workspace : Workspace) : Workspace :=
  { workspace with printed := texts ++ workspace.printed }

namespace Action

/-- What an action does, and adds to the texts printed, does not depend on the texts that are
there. -/
def IsPrintBlind {α : Type} (action : Action α) : Prop :=
  ∀ texts workspace, action.perform (workspace.behind texts)
    = ((action.perform workspace).1, (action.perform workspace).2.behind texts)

variable {α β : Type}

/-! ## Single actions -/

/-- Doing nothing prints nothing. -/
theorem isPrintBlind_pure (value : α) : IsPrintBlind (pure value) :=
  fun _ _ => rfl

/-- A failure does not depend on what was printed. -/
theorem isPrintBlind_throw (failure : Failure) : IsPrintBlind (throw failure : Action α) :=
  fun _ _ => rfl

/-- Warnings are kept apart from what is printed. -/
theorem isPrintBlind_warn (warning : Warning) : IsPrintBlind (warn warning) :=
  fun _ _ => rfl

/-- Several warnings are kept apart from what is printed, too. -/
theorem isPrintBlind_warnAll (warnings : List Warning) : IsPrintBlind (warnAll warnings) :=
  fun _ _ => rfl

/-- The disk is set whatever was printed. -/
theorem isPrintBlind_setDisk (disk : Disk) : IsPrintBlind (setDisk disk) :=
  fun _ _ => rfl

/-- Printing puts texts behind those that are there. -/
theorem isPrintBlind_print (texts : List Text) : IsPrintBlind (print texts) := by
  intro earlier workspace
  have hassoc := List.append_assoc earlier workspace.printed texts
  exact congrArg (fun printed => (Except.ok (), { workspace with printed := printed })) hassoc

/-- A result that is given does not depend on what was printed. -/
theorem isPrintBlind_ofExcept (result : Except Failure α) : IsPrintBlind (ofExcept result) := by
  cases result with
  | ok value => exact isPrintBlind_pure value
  | error failure => exact isPrintBlind_throw failure

/-! ## In sequence -/

/-- Of two actions in sequence the second prints behind the first. -/
theorem IsPrintBlind.bind {action : Action α} {next : α → Action β} (h : IsPrintBlind action)
    (hnext : ∀ value, IsPrintBlind (next value)) : IsPrintBlind (action >>= next) := by
  intro texts workspace
  rw [perform_bind, perform_bind, h texts workspace]
  rcases action.perform workspace with ⟨⟨failure⟩ | ⟨value⟩, after⟩
  · rfl
  · exact hnext value texts after

/-- What looks at the workspace must not look at the texts printed. -/
theorem isPrintBlind_get_bind {next : Workspace → Action β}
    (hsame : ∀ texts workspace, next (workspace.behind texts) = next workspace)
    (hnext : ∀ workspace, IsPrintBlind (next workspace)) : IsPrintBlind (get >>= next) := by
  intro texts workspace
  simp only [perform_bind, perform_get, hsame]
  exact hnext workspace texts workspace

/-! ## Files -/

/-- Reading looks at the disk only. -/
theorem isPrintBlind_readFile (p : Path) : IsPrintBlind (readFile p) := by
  refine isPrintBlind_get_bind (fun _ _ => rfl) ?_
  intro workspace
  cases workspace.disk.readFile p with
  | ok content => exact isPrintBlind_pure content
  | error fault => exact isPrintBlind_throw (.disk p fault)

/-- Making directories looks at the disk only. -/
theorem isPrintBlind_makeParent (p : Path) : IsPrintBlind (makeParent p) := by
  unfold makeParent
  cases Path.parent? p with
  | none => exact isPrintBlind_pure ()
  | some parent =>
    refine isPrintBlind_get_bind (fun _ _ => rfl) ?_
    intro workspace
    rcases workspace.disk.makeDirectories parent with ⟨⟨fault⟩ | ⟨⟩, disk⟩
    · exact (isPrintBlind_setDisk disk).bind fun _ => isPrintBlind_throw _
    · exact (isPrintBlind_setDisk disk).bind fun _ => isPrintBlind_pure ()

/-- Writing a file is making directories and changing the disk. -/
theorem isPrintBlind_writeFile (p : Path) (content : Bytes) :
    IsPrintBlind (writeFile p content) := by
  refine (isPrintBlind_makeParent p).bind fun _ => ?_
  refine isPrintBlind_get_bind (fun _ _ => rfl) ?_
  intro workspace
  cases workspace.disk.overwrite p content with
  | ok disk => exact isPrintBlind_setDisk disk
  | error fault => exact isPrintBlind_throw (.disk p fault)

end Action

open ErrorCatalog.Action

/-! ## Runs -/

/-- Loading reads a file and warns. -/
theorem Source.isPrintBlind_load (source : Source) : IsPrintBlind source.load := by
  refine (isPrintBlind_readFile source.path).bind fun content => ?_
  exact (isPrintBlind_warnAll _).bind fun _ => isPrintBlind_pure _

namespace Run

/-- Writing several files is writing one after the other. -/
theorem isPrintBlind_writeFiles (directory : Path) (files : List Generated.File) :
    IsPrintBlind (writeFiles directory files) := by
  induction files with
  | nil => exact isPrintBlind_pure []
  | cons file rest ih =>
    refine (isPrintBlind_writeFile _ _).bind fun _ => ?_
    exact ih.bind fun paths => isPrintBlind_pure _

/-- A run prints nothing at all; what is said about it is printed by the command. -/
theorem isPrintBlind_runWith (registry : Registry) (options : Options) :
    IsPrintBlind (runWith registry options) := by
  refine (isPrintBlind_ofExcept _).bind fun framework => ?_
  refine (options.input.isPrintBlind_load).bind fun entries => ?_
  split
  · exact (isPrintBlind_warn _).bind fun _ => isPrintBlind_pure none
  · refine (isPrintBlind_ofExcept _).bind fun files => ?_
    exact (isPrintBlind_writeFiles _ files).bind fun paths => isPrintBlind_pure _

end Run

/-! ## Project files -/

namespace ProjectFile

/-- Reading a project file prints nothing. -/
theorem isPrintBlind_load (path : Path) : IsPrintBlind (load path) := by
  refine (isPrintBlind_readFile path).bind fun content => ?_
  cases Text.decode? content with
  | none => exact isPrintBlind_throw _
  | some text =>
    simp only
    cases settings text with
    | ok found => exact isPrintBlind_pure found
    | error fault => exact isPrintBlind_throw _

/-- Neither does looking for one. -/
theorem isPrintBlind_discover (directory : Path) : IsPrintBlind (discover directory) := by
  refine isPrintBlind_get_bind (fun _ _ => rfl) ?_
  intro workspace
  split
  · rw [← bind_pure_comp]
    exact (isPrintBlind_load _).bind fun found => isPrintBlind_pure _
  · exact isPrintBlind_pure none

end ProjectFile

/-! ## Commands -/

namespace CommandLine

def lowerSettings : Option Path → Action Settings
  | some path => ProjectFile.load path
  | none => do pure ((← ProjectFile.discover here).getD .empty)

def optionsOver (given lower : Settings) : Action Options := do
  match (lower.merge given).options here (← get).disk with
  | .ok options => pure options
  | .error fault => throw (.setting fault)

/-- Finding the options of a run is reading the project file and then filling the gaps. -/
theorem resolve_eq_bind (projectFile : Option Path) (given : Settings) :
    resolve projectFile given = lowerSettings projectFile >>= optionsOver given := by
  cases projectFile with
  | some path => rfl
  | none => exact (bind_assoc (ProjectFile.discover here) _ _).symm

/-- Finding the options of a run prints nothing. -/
theorem isPrintBlind_resolve (projectFile : Option Path) (given : Settings) :
    IsPrintBlind (resolve projectFile given) := by
  rw [resolve_eq_bind]
  refine IsPrintBlind.bind ?_ fun lower => ?_
  · cases projectFile with
    | some path => exact ProjectFile.isPrintBlind_load path
    | none =>
      exact (ProjectFile.isPrintBlind_discover here).bind fun found => isPrintBlind_pure _
  · refine isPrintBlind_get_bind (fun _ _ => rfl) ?_
    intro workspace
    cases (lower.merge given).options here workspace.disk with
    | ok options => exact isPrintBlind_pure options
    | error fault => exact isPrintBlind_throw (.setting fault)

/-- What a generating command prints comes behind what was printed before it. -/
theorem isPrintBlind_generatePackage (projectFile : Option Path) (given : Settings) :
    IsPrintBlind (generatePackage projectFile given) := by
  refine (isPrintBlind_resolve projectFile given).bind fun options => ?_
  refine (isPrintBlind_print _).bind fun _ => ?_
  refine (Run.isPrintBlind_runWith .builtin options).bind fun report => ?_
  cases report with
  | none => exact isPrintBlind_print _
  | some report => exact isPrintBlind_print _

end CommandLine

end ErrorCatalog
