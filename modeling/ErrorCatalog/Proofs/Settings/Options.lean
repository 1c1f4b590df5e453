import ErrorCatalog.Proofs.Generated.Acceptance
import ErrorCatalog.Proofs.Settings.Layers
import ErrorCatalog.Settings.Options
/-!
# Options out of settings

What settings stand for in a base directory. A text that is left open or blank counts for its
default, any other without the blanks at its ends; only the package has no default, and without it
there are no options. `Settings.Selects` says which source is read: the schema before the binding,
and what is set before what is looked up.
-/

namespace ErrorCatalog

namespace Settings

open Text (IsBlankText)

variable {value : Option Text} {t result default : Text}

/-! ## Texts -/

/-- A blank value counts as missing. -/
theorem filled_of_isBlankText (h : ∀ t ∈ value, IsBlankText t) : filled value = none := by
  cases value with
  | none => rfl
  | some t =>
    have hempty := Text.trimBlank_isEmpty_iff.2 (h t rfl)
    simp [filled, Option.filter, hempty]

/-- Any other value is trimmed. -/
theorem filled_of_not_isBlankText (h : ¬ IsBlankText t) :
    filled (some t) = some (Text.trimBlank t) := by
  have hfilled := mt Text.trimBlank_isEmpty_iff.1 h
  simp [filled, Option.filter, hfilled]

/-- The value without the blanks at its ends, or the default where no more than blanks is set. -/
def IsFilledFrom (value : Option Text) (default result : Text) : Prop :=
  (∃ t, value = some t ∧ ¬ IsBlankText t ∧ result = Text.trimBlank t)
    ∨ ((∀ t ∈ value, IsBlankText t) ∧ result = default)

/-- A missing value gives way to the default. -/
theorem isFilledFrom_getD (value : Option Text) (default : Text) :
    IsFilledFrom value default ((filled value).getD default) := by
  by_cases hblank : ∀ t ∈ value, IsBlankText t
  · refine .inr ⟨hblank, ?_⟩
    rw [filled_of_isBlankText hblank, Option.getD_none]
  · push Not at hblank
    rcases hblank with ⟨t, rfl, ht⟩
    refine .inl ⟨t, rfl, ht, ?_⟩
    rw [filled_of_not_isBlankText ht, Option.getD_some]

/-! ## Sources -/

/-- The source that settings select in a base directory. -/
inductive Selects (s : Settings) (base : Path) (disk : Disk) : Source → Prop where
  | proto {p : Path} (hproto : s.proto = some p) :
      Selects s base disk (.schema (Path.join base p))
  | pbfile {p : Path} (hproto : s.proto = none) (hpbfile : s.pbfile = some p) :
      Selects s base disk (.binding (Path.join base p))
  | presentSchema (hproto : s.proto = none) (hpbfile : s.pbfile = none)
      (hschema : disk.exists? (Path.join base "error.proto") = true) :
      Selects s base disk (.schema (Path.join base "error.proto"))
  | noSchema (hproto : s.proto = none) (hpbfile : s.pbfile = none)
      (hschema : disk.exists? (Path.join base "error.proto") = false) :
      Selects s base disk (.binding (Path.join base "errorcode/error.pb.go"))

/-- The input chosen is the one the rules select, whatever the disk has. -/
theorem selects_input (s : Settings) (base : Path) (disk : Disk) :
    Selects s base disk (s.input base disk) := by
  unfold input
  cases hproto : s.proto with
  | some p => exact .proto hproto
  | none =>
    cases hpbfile : s.pbfile with
    | some p => exact .pbfile hproto hpbfile
    | none =>
      cases hschema : disk.exists? (Path.join base defaultSchema) with
      | true => exact .presentSchema hproto hpbfile hschema
      | false => exact .noSchema hproto hpbfile hschema

/-! ## Options -/

/-- The options are the settings with every gap filled. -/
structure AreOptions (s : Settings) (base : Path) (disk : Disk) (options : Options) : Prop where
  packageName : ∃ t, s.package = some t ∧ options.packageName = Text.trimBlank t
  importPath : IsFilledFrom s.importPath (options.packageName ++ "/errorcode") options.importPath
  target : IsFilledFrom s.target "default" options.target
  defaultMessage : IsFilledFrom s.defaultMessage defaultClientMessage options.defaultMessage
  input : Selects s base disk options.input
  output : options.outputDirectory = s.output.elim base (Path.join base)

/-- Without a package there are no options. -/
theorem options_of_isBlankText {s : Settings} (h : ∀ t ∈ s.package, IsBlankText t) (base : Path)
    (disk : Disk) : s.options base disk = .error .packageMissing := by
  simp only [options, filled_of_isBlankText h]

/-- With a package the options are those that the rules describe. -/
theorem areOptions_options {s : Settings} (hset : s.package = some t) (h : ¬ IsBlankText t)
    (base : Path) (disk : Disk) :
    ∃ options, s.options base disk = .ok options ∧ AreOptions s base disk options := by
  have hfilled : filled s.package = some (Text.trimBlank t) := by
    rw [hset, filled_of_not_isBlankText h]
  have hoptions : s.options base disk = .ok {
      packageName := Text.trimBlank t
      importPath := (filled s.importPath).getD (Text.trimBlank t ++ importSuffix)
      target := (filled s.target).getD Registry.defaultTarget
      defaultMessage := (filled s.defaultMessage).getD defaultClientMessage
      input := s.input base disk
      outputDirectory := s.output.elim base (Path.join base) } := by
    simp only [options, hfilled]
  refine ⟨_, hoptions, ?_⟩
  exact {
    packageName := ⟨t, hset, rfl⟩
    importPath := isFilledFrom_getD s.importPath _
    target := isFilledFrom_getD s.target _
    defaultMessage := isFilledFrom_getD s.defaultMessage _
    input := selects_input s base disk
    output := rfl }

/-- Layers form a monoid. In layers laid over one another every field is that of the last layer
which sets it, but both inputs are those of the last layer which selects one. The whole stands for
options in any base directory, unless its package is left open or blank. -/
theorem mergeAll_layers :
    (∀ lower middle upper : Settings,
      merge (merge lower middle) upper = merge lower (merge middle upper))
    ∧ (∀ s : Settings, merge empty s = s ∧ merge s empty = s)
    ∧ ∀ layers : List Settings,
      (mergeAll layers).package = lastSet package layers
      ∧ (mergeAll layers).importPath = lastSet importPath layers
      ∧ (mergeAll layers).target = lastSet target layers
      ∧ (mergeAll layers).defaultMessage = lastSet defaultMessage layers
      ∧ (mergeAll layers).output = lastSet output layers
      ∧ (mergeAll layers).proto = (layers.filter selectsInput).getLast?.bind proto
      ∧ (mergeAll layers).pbfile = (layers.filter selectsInput).getLast?.bind pbfile
      ∧ ∀ (base : Path) (disk : Disk),
        ((∀ t ∈ (mergeAll layers).package, IsBlankText t) →
          (mergeAll layers).options base disk = .error .packageMissing)
        ∧ ((∃ t ∈ (mergeAll layers).package, ¬ IsBlankText t) →
          ∃ options, (mergeAll layers).options base disk = .ok options
            ∧ AreOptions (mergeAll layers) base disk options) := by
  refine ⟨merge_assoc, fun s => ⟨empty_merge s, merge_empty s⟩, ?_⟩
  intro layers
  -- Each field is overlaid, so the last layer that sets it decides.
  refine ⟨isOverlaid_package.mergeAll layers, isOverlaid_importPath.mergeAll layers,
    isOverlaid_target.mergeAll layers, isOverlaid_defaultMessage.mergeAll layers,
    isOverlaid_output.mergeAll layers, proto_mergeAll layers, pbfile_mergeAll layers, ?_⟩
  intro base disk
  constructor
  · intro hblank
    exact options_of_isBlankText hblank base disk
  · rintro ⟨t, hset, ht⟩
    exact areOptions_options hset ht base disk

end Settings

end ErrorCatalog
