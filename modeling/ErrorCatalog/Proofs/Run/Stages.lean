import ErrorCatalog.Proofs.Generated.Acceptance
import ErrorCatalog.Proofs.Registry
import ErrorCatalog.Proofs.SortedTable
import ErrorCatalog.Proofs.Workspace
import ErrorCatalog.Run
import Mathlib.Order.WellFounded
/-!
# The stages of a run

A run passes six stages before it writes anything. `Run.Stage.Fails` says what it is for each of
them to fail, whatever the others do, and `Run.Stage.Outcome` how a run ends that fails there first.
The first failing stage decides the outcome, and the disk stays as it was; when no stage fails, only
writing can.
-/

namespace ErrorCatalog

namespace Run

/-! ## Stages -/

/-- What can end a run before it writes, in the order in which it is looked at. -/
inductive Stage where
  | target
  | input
  | entries
  | package
  | message
  | rules
  deriving DecidableEq, Repr

def Stage.position : Stage → Nat
  | .target => 0
  | .input => 1
  | .entries => 2
  | .package => 3
  | .message => 4
  | .rules => 5

def lookUpName (options : Options) : Text :=
  if options.target = [] then Registry.defaultTarget else options.target

/-- The entries that the input holds; none when it cannot be read. -/
def found (options : Options) (disk : Disk) : List Entry :=
  match disk.readFile options.input.path with
  | .ok content => options.input.entries (Text.decodeLossy content)
  | .error _ => []

variable (registry : Registry) (options : Options) (disk : Disk)

/-- Whether a stage fails, seen alone. -/
def Stage.Fails : Stage → Prop
  | .target => lookUpName options ∉ registry.targets
  | .input => ∃ fault, disk.readFile options.input.path = .error fault
  | .entries => found options disk = []
  | .package => Go.isIdentifier (Go.packageName options.packageName) = false
  | .message => Text.IsBlankText options.defaultMessage
  | .rules => ∃ fault, Entry.firstFault? (found options disk) = some fault

/-- How a run ends that fails first at a stage. -/
def Stage.Outcome : Stage → Except Failure (Option Report) → Prop
  | .target, outcome => outcome = .error (.unknownTarget options.target registry.targets)
  | .input, outcome => ∃ fault, disk.readFile options.input.path = .error fault
      ∧ outcome = .error (.disk options.input.path fault)
  | .entries, outcome => outcome = .ok none
  | .package, outcome => outcome = .error (.setting
      (.packageName options.packageName (Go.packageName options.packageName)))
  | .message, outcome => outcome = .error (.setting .messageBlank)
  | .rules, outcome => ∃ fault, Entry.firstFault? (found options disk) = some fault
      ∧ outcome = .error (.render fault)

def Stage.warnings : Stage → List Warning
  | .target | .input => []
  | .entries => [.noEntries options.input.path]
  | .package | .message | .rules =>
      Source.duplicateWarnings options.input.path (found options disk)

/-! ## The run as a whole -/

def report (framework : Framework) (paths : List Path) : Report where
  target := framework.name
  entries := (found options disk).length
  publicEntries := ((found options disk).filter fun e => !e.isInternal).length
  files := paths

def warned (workspace : Workspace) : Workspace :=
  { workspace with
    warnings := workspace.warnings
      ++ Source.duplicateWarnings options.input.path (found options workspace.disk) }

/-- Loading reads the file once, then warns of what is in it twice. -/
theorem perform_load (source : Source) (workspace : Workspace) :
    source.load.perform workspace =
      match workspace.disk.readFile source.path with
      | .error fault => (.error (.disk source.path fault), workspace)
      | .ok content =>
        let entries := source.entries (Text.decodeLossy content)
        (.ok entries, { workspace with
          warnings := workspace.warnings ++ Source.duplicateWarnings source.path entries }) := by
  simp only [Source.load, Action.perform_bind, Action.perform_readFile]
  cases workspace.disk.readFile source.path with
  | error fault => rfl
  | ok content => rfl

variable {registry options disk}

/-- A run, one stage after the other. -/
theorem perform_runWith (registry : Registry) (options : Options) (workspace : Workspace) :
    (runWith registry options).perform workspace =
      match registry.resolve options.target with
      | .error failure => (.error failure, workspace)
      | .ok framework =>
        match workspace.disk.readFile options.input.path with
        | .error fault => (.error (.disk options.input.path fault), workspace)
        | .ok _ =>
          if found options workspace.disk = [] then
            (.ok none, { workspace with
              warnings := workspace.warnings ++ [.noEntries options.input.path] })
          else
            match framework.generate options.spec (found options workspace.disk) with
            | .error failure => (.error failure, warned options workspace)
            | .ok files =>
              match (writeFiles options.outputDirectory files).perform
                  (warned options workspace) with
              | (.error failure, after) => (.error failure, after)
              | (.ok paths, after) =>
                  (.ok (some (report options workspace.disk framework paths)), after) := by
  simp only [runWith, Action.perform_bind, Action.perform_ofExcept, perform_load]
  cases registry.resolve options.target with
  | error failure => rfl
  | ok framework =>
    cases hread : workspace.disk.readFile options.input.path with
    | error fault => simp only [hread]
    | ok content =>
      -- What is loaded is what the input holds.
      have hfound : found options workspace.disk
          = options.input.entries (Text.decodeLossy content) := by
        simp only [found, hread]
      simp only [hread, hfound, warned, report]
      cases options.input.entries (Text.decodeLossy content) with
      | nil =>
        simp only [List.isEmpty_nil, if_true, Action.perform_bind, Action.perform_warn,
          Action.perform_pure, Source.duplicateWarnings, Source.warningsAfter, List.append_nil]
      | cons e rest =>
        simp only [List.isEmpty_cons, Bool.false_eq_true, if_false, Action.perform_bind,
          Action.perform_ofExcept, reduceCtorEq]
        cases framework.generate options.spec (e :: rest) with
        | error failure => rfl
        | ok files =>
          -- Only the outcome of writing matters here, not what is written.
          simp only
          generalize (writeFiles options.outputDirectory files).perform _ = written
          rcases written with ⟨result, after⟩
          cases result with
          | error failure => rfl
          | ok paths => rfl

/-! ## Single stages -/

theorem registry_lookUpName_eq (options : Options) :
    Registry.lookUpName options.target = lookUpName options := by
  unfold lookUpName Registry.lookUpName
  congr

/-- An unknown target is answered by the targets there are. -/
theorem resolve_of_fails (h : Stage.target.Fails registry options disk) :
    registry.resolve options.target
      = .error (.unknownTarget options.target registry.targets) := by
  refine Registry.resolve_eq_error_iff.2 ⟨?_, rfl⟩
  rw [registry_lookUpName_eq]
  exact h

/-- Past the first stage there is a generator. -/
theorem exists_resolve (h : ¬ Stage.target.Fails registry options disk) :
    ∃ framework, SortedTable.get? registry (lookUpName options) = some framework
      ∧ registry.resolve options.target = .ok framework := by
  -- A name among the targets is a key of the table.
  have hsome : SortedTable.get? registry (lookUpName options) ≠ none :=
    mt (SortedTable.get?_eq_none_iff registry (lookUpName options)).1 h
  rcases Option.ne_none_iff_exists'.1 hsome with ⟨framework, hframework⟩
  refine ⟨framework, hframework, ?_⟩
  rw [Registry.resolve_eq_ok_iff, registry_lookUpName_eq, hframework]

/-- Past the second stage the input was read. -/
theorem exists_content (h : ¬ Stage.input.Fails registry options disk) :
    ∃ content, disk.readFile options.input.path = .ok content := by
  cases hread : disk.readFile options.input.path with
  | ok content => exact ⟨content, rfl⟩
  | error fault => exact absurd ⟨fault, hread⟩ h

/-- Past the package stage the package has a proper name. -/
theorem isIdentifier_of_passes (h : ¬ Stage.package.Fails registry options disk) :
    Go.isIdentifier (Go.packageName options.spec.packageName) = true := by
  have hname : ¬ Go.isIdentifier (Go.packageName options.packageName) = false := h
  rw [Bool.not_eq_false] at hname
  exact hname

/-- A run that passes the first three stages ends as generation does, if that fails. -/
theorem perform_runWith_of_generate_error {workspace : Workspace} {failure : Failure}
    (htarget : ¬ Stage.target.Fails registry options workspace.disk)
    (hinput : ¬ Stage.input.Fails registry options workspace.disk)
    (hentries : ¬ Stage.entries.Fails registry options workspace.disk)
    (h : options.spec.accept (found options workspace.disk) = .error failure) :
    (runWith registry options).perform workspace = (.error failure, warned options workspace) := by
  rcases exists_resolve htarget with ⟨framework, -, hresolve⟩
  rcases exists_content hinput with ⟨content, hread⟩
  -- All frameworks accept and refuse alike, so it does not matter which one was found.
  have hgenerate : framework.generate options.spec (found options workspace.disk)
      = .error failure := by
    rw [Framework.generate_eq_map_files, h]
    rfl
  have hfound : ¬ found options workspace.disk = [] := hentries
  simp only [perform_runWith, hresolve, hread, if_neg hfound, hgenerate]

/-- The first failing stage decides how a run ends, and nothing but its warnings is left behind. -/
theorem perform_runWith_of_first_fails {workspace : Workspace} {stage : Stage}
    (h : stage.Fails registry options workspace.disk)
    (hfirst : ∀ earlier : Stage, earlier.position < stage.position →
      ¬ earlier.Fails registry options workspace.disk) :
    ∃ outcome, stage.Outcome registry options workspace.disk outcome
      ∧ (runWith registry options).perform workspace = (outcome, { workspace with
          warnings := workspace.warnings ++ stage.warnings options workspace.disk }) := by
  -- One case for each stage: those before it have passed, which brings the run up to it.
  cases stage with
  | target =>
    refine ⟨_, rfl, ?_⟩
    simp only [perform_runWith, resolve_of_fails h, Stage.warnings, List.append_nil]
  | input =>
    rcases exists_resolve (hfirst .target (by decide)) with ⟨framework, -, hresolve⟩
    rcases h with ⟨fault, hread⟩
    refine ⟨_, ⟨fault, hread, rfl⟩, ?_⟩
    simp only [perform_runWith, hresolve, hread, Stage.warnings, List.append_nil]
  | entries =>
    rcases exists_resolve (hfirst .target (by decide)) with ⟨framework, -, hresolve⟩
    rcases exists_content (hfirst .input (by decide)) with ⟨content, hread⟩
    have hfound : found options workspace.disk = [] := h
    refine ⟨_, rfl, ?_⟩
    simp only [perform_runWith, hresolve, hread, if_pos hfound, Stage.warnings]
  | package =>
    refine ⟨_, rfl, ?_⟩
    exact perform_runWith_of_generate_error (hfirst .target (by decide))
      (hfirst .input (by decide)) (hfirst .entries (by decide))
      (PackageSpec.accept_of_bad_package h)
  | message =>
    refine ⟨_, rfl, ?_⟩
    have hpackage := isIdentifier_of_passes (hfirst .package (by decide))
    exact perform_runWith_of_generate_error (hfirst .target (by decide))
      (hfirst .input (by decide)) (hfirst .entries (by decide))
      (PackageSpec.accept_of_blank_message hpackage h)
  | rules =>
    rcases h with ⟨fault, hfault⟩
    refine ⟨_, ⟨fault, hfault, rfl⟩, ?_⟩
    have hpackage := isIdentifier_of_passes (hfirst .package (by decide))
    have hmessage : ¬ Text.IsBlankText options.spec.defaultMessage :=
      hfirst .message (by decide)
    apply perform_runWith_of_generate_error (hfirst .target (by decide))
      (hfirst .input (by decide)) (hfirst .entries (by decide))
    rw [PackageSpec.accept_of_sound_spec hpackage hmessage, hfault]

/-- Where some stage fails there is a first one. -/
theorem exists_first_fails (h : ∃ stage : Stage, stage.Fails registry options disk) :
    ∃ stage : Stage, stage.Fails registry options disk
      ∧ ∀ earlier : Stage, earlier.position < stage.position →
        ¬ earlier.Fails registry options disk := by
  obtain ⟨stage, hstage, hfirst⟩ := (measure Stage.position).wf.has_min
    { stage : Stage | stage.Fails registry options disk } h
  exact ⟨stage, hstage, fun earlier hearlier hfails => hfirst earlier hfails hearlier⟩

/-! ## Writing -/

/-- A failure of writing is the failure to write one of the files. -/
theorem isWriteFailure_of_writeFiles {directory : Path} {files : List Generated.File}
    {failure : Failure} {workspace after : Workspace}
    (h : (writeFiles directory files).perform workspace = (.error failure, after)) :
    ∃ file ∈ files, Action.IsWriteFailure (Path.join directory file.name) failure := by
  induction files generalizing workspace with
  | nil => cases h
  | cons file rest ih =>
    simp only [writeFiles, Action.perform_bind] at h
    cases hwrite : (Action.writeFile (Path.join directory file.name)
        (Text.encode file.content)).perform workspace with
    | mk result between =>
      simp only [hwrite] at h
      cases result with
      | error fault =>
        cases h
        exact ⟨file, List.mem_cons_self, Action.isWriteFailure_of_writeFile hwrite⟩
      | ok value =>
        simp only at h
        cases hrest : (writeFiles directory rest).perform between with
        | mk result last =>
          simp only [hrest] at h
          cases result with
          | ok paths => cases h
          | error fault =>
            -- This file was written; one of those behind it was not.
            cases h
            rcases ih hrest with ⟨other, hother, hfailure⟩
            exact ⟨other, List.mem_cons_of_mem file hother, hfailure⟩

/-- A run that passes all stages reports what it wrote or fails in writing one of the files. -/
theorem perform_runWith_of_passes {workspace : Workspace}
    (h : ∀ stage : Stage, ¬ stage.Fails registry options workspace.disk) :
    ∃ framework, SortedTable.get? registry (lookUpName options) = some framework
      ∧ ((∃ paths after, (runWith registry options).perform workspace
            = (.ok (some (report options workspace.disk framework paths)), after))
        ∨ ∃ failure after, (runWith registry options).perform workspace = (.error failure, after)
            ∧ ∃ file ∈ framework.files (Go.packageName options.packageName) options.spec
                (found options workspace.disk),
              Action.IsWriteFailure (Path.join options.outputDirectory file.name) failure) := by
  rcases exists_resolve (h .target) with ⟨framework, hget, hresolve⟩
  rcases exists_content (h .input) with ⟨content, hread⟩
  have hfound : ¬ found options workspace.disk = [] := h .entries
  have hfault : Entry.firstFault? (found options workspace.disk) = none := by
    cases hcase : Entry.firstFault? (found options workspace.disk) with
    | none => rfl
    | some fault => exact absurd ⟨fault, hcase⟩ (h .rules)
  have haccept : options.spec.accept (found options workspace.disk)
      = .ok (Go.packageName options.packageName) :=
    PackageSpec.accept_eq_ok_iff.2
      ⟨rfl, isIdentifier_of_passes (h .package), h .message, hfault⟩
  -- With an accepted specification every framework generates its files.
  have hgenerate : framework.generate options.spec (found options workspace.disk)
      = .ok (framework.files (Go.packageName options.packageName) options.spec
          (found options workspace.disk)) :=
    Framework.generate_eq_ok_iff.2 ⟨_, haccept, rfl⟩
  refine ⟨framework, hget, ?_⟩
  simp only [perform_runWith, hresolve, hread, if_neg hfound, hgenerate]
  cases hwritten : (writeFiles options.outputDirectory (framework.files
      (Go.packageName options.packageName) options.spec (found options workspace.disk))).perform
      (warned options workspace) with
  | mk result after =>
    cases result with
    | ok paths => exact .inl ⟨paths, after, rfl⟩
    | error failure => exact .inr ⟨failure, after, rfl, isWriteFailure_of_writeFiles hwritten⟩

/-- The first stage that fails decides how a run ends, and all that the run leaves behind is the
warnings given up to there. As long as any stage fails, the disk stays as it was. When none fails,
the run reports what it wrote, or fails in writing one of the files of the package. -/
theorem runWith_outcome (registry : Registry) (options : Options) (workspace : Workspace) :
    (∀ stage : Stage, stage.Fails registry options workspace.disk →
      (∀ earlier : Stage, earlier.position < stage.position →
        ¬ earlier.Fails registry options workspace.disk) →
      ∃ outcome, stage.Outcome registry options workspace.disk outcome
        ∧ (runWith registry options).perform workspace = (outcome, { workspace with
            warnings := workspace.warnings ++ stage.warnings options workspace.disk }))
    ∧ ((∃ stage : Stage, stage.Fails registry options workspace.disk) →
        ((runWith registry options).perform workspace).2.disk = workspace.disk)
    ∧ ((∀ stage : Stage, ¬ stage.Fails registry options workspace.disk) →
        ∃ framework, SortedTable.get? registry (lookUpName options) = some framework
          ∧ ((∃ paths after, (runWith registry options).perform workspace
                = (.ok (some (report options workspace.disk framework paths)), after))
            ∨ ∃ failure after,
                (runWith registry options).perform workspace = (.error failure, after)
                ∧ ∃ file ∈ framework.files (Go.packageName options.packageName) options.spec
                    (found options workspace.disk),
                  Action.IsWriteFailure (Path.join options.outputDirectory file.name)
                    failure)) := by
  refine ⟨fun stage => perform_runWith_of_first_fails, ?_, perform_runWith_of_passes⟩
  -- The disk is untouched because the first failing stage leaves only warnings behind.
  intro hfails
  rcases exists_first_fails hfails with ⟨stage, hstage, hfirst⟩
  rcases perform_runWith_of_first_fails hstage hfirst with ⟨outcome, -, hperform⟩
  rw [hperform]

end Run

end ErrorCatalog
