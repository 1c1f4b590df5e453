import ErrorCatalog.Proofs.Entry.Check
import ErrorCatalog.Proofs.Text.Scan
import ErrorCatalog.Registry
/-!
# What can be generated

A package can be generated when its path yields a name, the message for internal errors is not blank
and no entry breaks a rule. These are looked at in this order, and the first that fails gives the
failure, whatever the framework: `PackageSpec.accept` makes all three checks at once.

The three frameworks each have a generator of their own. `Framework.generate_eq_map_files` brings
them together: each of them generates `Framework.files` for the package that was accepted, and fails
only where it was not.
-/

namespace ErrorCatalog

variable {spec : PackageSpec} {entries : List Entry}

def Text.IsBlankText (t : Text) : Prop :=
  ∀ c ∈ t, Text.isBlank c = true

/-- Trimming leaves nothing exactly of a blank text. -/
theorem Text.trimBlank_isEmpty_iff {t : Text} :
    (Text.trimBlank t).isEmpty = true ↔ Text.IsBlankText t := by
  rw [List.isEmpty_iff]
  exact Text.trim_eq_nil_iff

/-! ## Acceptance -/

namespace PackageSpec

/-- The name of the package, when the specification and the entries make one. -/
def accept (spec : PackageSpec) (entries : List Entry) : Except Failure Text :=
  match spec.goPackage with
  | .error fault => .error (.setting fault)
  | .ok package =>
    match spec.clientMessage with
    | .error fault => .error (.setting fault)
    | .ok _ =>
      match Entry.firstFault? entries with
      | some fault => .error (.render fault)
      | none => .ok package

/-- The package name is looked at first. -/
theorem accept_of_bad_package (h : Go.isIdentifier (Go.packageName spec.packageName) = false) :
    spec.accept entries = .error (.setting
      (.packageName spec.packageName (Go.packageName spec.packageName))) := by
  simp [accept, goPackage, h]

/-- The default message is looked at after the package name. -/
theorem accept_of_blank_message
    (hpackage : Go.isIdentifier (Go.packageName spec.packageName) = true)
    (hmessage : Text.IsBlankText spec.defaultMessage) :
    spec.accept entries = .error (.setting .messageBlank) := by
  simp [accept, goPackage, hpackage, clientMessage, Text.trimBlank_isEmpty_iff.2 hmessage]

/-- With both settings sound, the entries decide. -/
theorem accept_of_sound_spec (hpackage : Go.isIdentifier (Go.packageName spec.packageName) = true)
    (hmessage : ¬ Text.IsBlankText spec.defaultMessage) :
    spec.accept entries = match Entry.firstFault? entries with
      | some fault => .error (.render fault)
      | none => .ok (Go.packageName spec.packageName) := by
  have hfilled := mt Text.trimBlank_isEmpty_iff.1 hmessage
  cases hfault : Entry.firstFault? entries with
  | some fault => simp [accept, goPackage, hpackage, clientMessage, hfilled, hfault]
  | none => simp [accept, goPackage, hpackage, clientMessage, hfilled, hfault]

/-- A request is accepted exactly if the package, the message and the entries all pass. -/
theorem accept_eq_ok_iff {package : Text} :
    spec.accept entries = .ok package ↔
      Go.packageName spec.packageName = package ∧ Go.isIdentifier package = true
        ∧ ¬ Text.IsBlankText spec.defaultMessage ∧ Entry.firstFault? entries = none := by
  -- The cases follow the order of the checks: package, message, entries.
  cases hpackage : Go.isIdentifier (Go.packageName spec.packageName) with
  | false =>
    rw [accept_of_bad_package hpackage]
    constructor
    · intro h
      cases h
    · rintro ⟨rfl, hidentifier, -, -⟩
      rw [hpackage] at hidentifier
      cases hidentifier
  | true =>
    by_cases hmessage : Text.IsBlankText spec.defaultMessage
    · rw [accept_of_blank_message hpackage hmessage]
      constructor
      · intro h
        cases h
      · rintro ⟨-, -, hfilled, -⟩
        exact absurd hmessage hfilled
    · rw [accept_of_sound_spec hpackage hmessage]
      cases hfault : Entry.firstFault? entries with
      | some fault => simp
      | none =>
        constructor
        · intro h
          cases h
          exact ⟨rfl, hpackage, hmessage, rfl⟩
        · rintro ⟨rfl, -, -, -⟩
          rfl

/-- The name of an accepted package is what its path yields, however often it is derived. -/
theorem goPackage_of_accept {package : Text} (h : spec.accept entries = .ok package) :
    spec.goPackage = .ok package := by
  rcases accept_eq_ok_iff.1 h with ⟨rfl, hpackage, -, -⟩
  simp [goPackage, hpackage]

/-- The message passes the check unchanged. -/
theorem eq_of_clientMessage {message : Text} (h : spec.clientMessage = .ok message) :
    message = spec.defaultMessage := by
  unfold clientMessage at h
  split_ifs at h
  cases h
  rfl

end PackageSpec

/-! ## The generators -/

namespace Framework

def errorFlavor : Framework → Generated.ErrorFlavor
  | .plain | .goZero => .plain
  | .goFrame => .goFrame

def extraFiles (framework : Framework) (package importPath : Text) : List Generated.File :=
  match framework with
  | .plain => []
  | .goZero => [⟨Generated.HandlerFile.path, Generated.HandlerFile.content package importPath⟩]
  | .goFrame =>
      [⟨Generated.MiddlewareFile.path, Generated.MiddlewareFile.content package importPath⟩]

def files (framework : Framework) (package : Text) (spec : PackageSpec) (entries : List Entry) :
    List Generated.File :=
  ⟨Generated.TypesFile.path, Generated.TypesFile.content package framework.errorFlavor⟩
    :: ⟨Generated.ErrorsFile.path, Generated.ErrorsFile.content package spec.defaultMessage entries⟩
    :: framework.extraFiles package (Text.trimBlank spec.importPath)

/-- The checks on the way to the common files are those of `accept`, in the same order. -/
theorem commonFiles_eq_map (flavor : Generated.ErrorFlavor) (spec : PackageSpec)
    (entries : List Entry) :
    commonFiles flavor spec entries = (spec.accept entries).map fun package =>
      [⟨Generated.TypesFile.path, Generated.TypesFile.content package flavor⟩,
        ⟨Generated.ErrorsFile.path,
          Generated.ErrorsFile.content package spec.defaultMessage entries⟩] := by
  unfold commonFiles PackageSpec.accept checkEntries
  cases spec.goPackage with
  | error fault => rfl
  | ok package =>
    cases hmessage : spec.clientMessage with
    | error fault => rfl
    | ok message =>
      -- The message is passed on as it was given.
      have hgiven : message = spec.defaultMessage := PackageSpec.eq_of_clientMessage hmessage
      subst hgiven
      cases Entry.firstFault? entries with
      | some fault => rfl
      | none => rfl

/-- A package name that is derived once more, for further files, is the one that was accepted. -/
theorem commonFiles_append_eq_map (flavor : Generated.ErrorFlavor) (spec : PackageSpec)
    (entries : List Entry) (further : Text → List Generated.File) :
    (do
      let files ← commonFiles flavor spec entries
      let package ← spec.goPackage.mapError .setting
      pure (files ++ further package))
      = (spec.accept entries).map fun package =>
        [⟨Generated.TypesFile.path, Generated.TypesFile.content package flavor⟩,
          ⟨Generated.ErrorsFile.path,
            Generated.ErrorsFile.content package spec.defaultMessage entries⟩]
          ++ further package := by
  rw [commonFiles_eq_map]
  cases haccept : spec.accept entries with
  | error failure => rfl
  | ok package =>
    have hpackage : spec.goPackage = .ok package := PackageSpec.goPackage_of_accept haccept
    rw [hpackage]
    rfl

/-- Each generator gives the files of its framework for an accepted package. -/
theorem generate_eq_map_files (framework : Framework) (spec : PackageSpec)
    (entries : List Entry) :
    framework.generate spec entries
      = (spec.accept entries).map fun package => framework.files package spec entries := by
  cases framework with
  | plain => exact commonFiles_eq_map .plain spec entries
  | goZero =>
    exact commonFiles_append_eq_map .plain spec entries fun package =>
      extraFiles .goZero package (Text.trimBlank spec.importPath)
  | goFrame =>
    exact commonFiles_append_eq_map .goFrame spec entries fun package =>
      extraFiles .goFrame package (Text.trimBlank spec.importPath)

/-- A generation succeeds exactly if the request is accepted, and then with the files of the
framework. -/
theorem generate_eq_ok_iff {framework : Framework} {files : List Generated.File} :
    framework.generate spec entries = .ok files ↔
      ∃ package, spec.accept entries = .ok package
        ∧ files = framework.files package spec entries := by
  rw [generate_eq_map_files]
  cases spec.accept entries with
  | error failure => simp [Except.map]
  | ok package => simp [Except.map, eq_comm]

end Framework

variable {files : List Generated.File}

/-- What a generated package is: the files of a framework for an accepted specification. -/
theorem exists_framework_of_generate (h : generate spec entries = .ok files) :
    ∃ framework, Registry.builtin.resolve spec.target = .ok framework
      ∧ Go.isIdentifier (Go.packageName spec.packageName) = true
      ∧ Entry.AreRenderable entries
      ∧ files = framework.files (Go.packageName spec.packageName) spec entries := by
  unfold generate at h
  cases hframework : Registry.builtin.resolve spec.target with
  | error failure =>
    rw [hframework] at h
    cases h
  | ok framework =>
    rw [hframework] at h
    rcases Framework.generate_eq_ok_iff.1 h with ⟨package, haccept, rfl⟩
    rcases PackageSpec.accept_eq_ok_iff.1 haccept with ⟨rfl, hpackage, -, hfault⟩
    exact ⟨framework, rfl, hpackage, Entry.firstFault?_eq_none_iff.1 hfault, rfl⟩

end ErrorCatalog
