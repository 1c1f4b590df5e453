import ErrorCatalog.Proofs.Generated.Acceptance
import ErrorCatalog.Proofs.SortedTable
/-!
# What frameworks share

The frameworks accept the same packages and refuse the others for the same reason, which is the
first in a fixed order; only a name that no framework has comes before all of these. What they
generate is the same but for the extras of each: go-zero and GoFrame have a third file, and GoFrame
has two blocks of lines more in the file of types.
-/

namespace ErrorCatalog

variable {spec : PackageSpec} {entries : List Entry} {framework : Framework} {failure : Failure}

/-! ## Acceptance and refusal -/

namespace PackageSpec

structure Accepts (spec : PackageSpec) (entries : List Entry) : Prop where
  package : Go.isIdentifier (Go.packageName spec.packageName) = true
  message : ¬ Text.IsBlankText spec.defaultMessage
  rules : Entry.firstFault? entries = none

/-- The package is refused with a failure: that of the first check which does not pass. -/
inductive Refuses (spec : PackageSpec) (entries : List Entry) : Failure → Prop where
  | package (hpackage : Go.isIdentifier (Go.packageName spec.packageName) = false) :
      Refuses spec entries
        (.setting (.packageName spec.packageName (Go.packageName spec.packageName)))
  | message (hpackage : Go.isIdentifier (Go.packageName spec.packageName) = true)
      (hmessage : Text.IsBlankText spec.defaultMessage) :
      Refuses spec entries (.setting .messageBlank)
  | rules {fault : RenderFault}
      (hpackage : Go.isIdentifier (Go.packageName spec.packageName) = true)
      (hmessage : ¬ Text.IsBlankText spec.defaultMessage)
      (hrules : Entry.firstFault? entries = some fault) :
      Refuses spec entries (.render fault)

/-- The reasons for a refusal come in the order in which they are looked for. -/
theorem accept_of_refuses (h : Refuses spec entries failure) :
    spec.accept entries = .error failure := by
  cases h with
  | package hpackage => exact accept_of_bad_package hpackage
  | message hpackage hmessage => exact accept_of_blank_message hpackage hmessage
  | rules hpackage hmessage hrules =>
    rw [accept_of_sound_spec hpackage hmessage, hrules]

theorem accept_of_accepts (h : Accepts spec entries) :
    spec.accept entries = .ok (Go.packageName spec.packageName) :=
  accept_eq_ok_iff.2 ⟨rfl, h.package, h.message, h.rules⟩

/-- A package is either accepted or refused with some failure. -/
theorem accepts_or_refuses (spec : PackageSpec) (entries : List Entry) :
    Accepts spec entries ∨ ∃ failure, Refuses spec entries failure := by
  cases hpackage : Go.isIdentifier (Go.packageName spec.packageName) with
  | false => exact .inr ⟨_, .package hpackage⟩
  | true =>
    by_cases hmessage : Text.IsBlankText spec.defaultMessage
    · exact .inr ⟨_, .message hpackage hmessage⟩
    · cases hrules : Entry.firstFault? entries with
      | none => exact .inl ⟨hpackage, hmessage, hrules⟩
      | some fault => exact .inr ⟨_, .rules hpackage hmessage hrules⟩

/-- A request fails exactly for one of the three reasons. -/
theorem accept_eq_error_iff :
    spec.accept entries = .error failure ↔ Refuses spec entries failure := by
  refine ⟨?_, accept_of_refuses⟩
  intro h
  rcases accepts_or_refuses spec entries with haccepts | ⟨other, hrefuses⟩
  · have hok := accept_of_accepts haccepts
    rw [h] at hok
    cases hok
  · have hother := accept_of_refuses hrefuses
    rw [h] at hother
    cases hother
    exact hrefuses

end PackageSpec

/-! ## Names of frameworks -/

/-- Every framework is registered under its name. -/
theorem Framework.resolve_name (framework : Framework) :
    Registry.builtin.resolve framework.name = .ok framework := by
  cases framework <;> rfl

/-- Any other name is answered by the names there are, in their order. -/
theorem Registry.resolve_builtin_of_unknown {target : Text} (hne : target ≠ [])
    (h : ∀ framework : Framework, target ≠ framework.name) :
    builtin.resolve target
      = .error (.unknownTarget target ["default", "goframe", "gozero"]) := by
  have hempty : target.isEmpty = false := by simpa using hne
  have hkeys : target ∉ SortedTable.keys builtin := by
    intro hmem
    -- The registry is a closed term: its keys are these three by evaluation.
    have hkey : target ∈ (["default", "goframe", "gozero"] : List Text) := hmem
    simp only [List.mem_cons, List.not_mem_nil, or_false] at hkey
    rcases hkey with hplain | hgoFrame | hgoZero
    · exact h .plain hplain
    · exact h .goFrame hgoFrame
    · exact h .goZero hgoZero
  simp only [resolve, hempty, (SortedTable.get?_eq_none_iff builtin target).2 hkeys,
    Bool.false_eq_true, if_false]
  rfl

/-! ## Outcomes -/

/-- Which framework generates a package matters for its files only. -/
theorem generate_of_framework (spec : PackageSpec) (entries : List Entry)
    (framework : Framework) :
    generate { spec with target := framework.name } entries
      = (spec.accept entries).map fun package => framework.files package spec entries := by
  simp only [generate, framework.resolve_name, Framework.generate_eq_map_files]
  rfl

/-- Whether a request is refused, and why, does not depend on the framework. -/
theorem generate_eq_error_iff :
    generate { spec with target := framework.name } entries = .error failure ↔
      spec.Refuses entries failure := by
  rw [generate_of_framework, ← PackageSpec.accept_eq_error_iff]
  cases spec.accept entries with
  | ok package => simp [Except.map]
  | error other => simp [Except.map]

/-- An accepted request is answered by the files of its framework. -/
theorem generate_of_accepts (h : spec.Accepts entries) (framework : Framework) :
    generate { spec with target := framework.name } entries
      = .ok (framework.files (Go.packageName spec.packageName) spec entries) := by
  rw [generate_of_framework, PackageSpec.accept_of_accepts h]
  rfl

/-! ## Files -/

def importOpening : Text :=
  "import ("

def conversionHead : Text :=
  "func (e *Error) ToGError() error \x7b"

/-- Lines of a group of imports: each is a quoted path or empty. -/
def AreImports (lines : List Text) : Prop :=
  ∀ line ∈ lines, line = [] ∨ ∃ path : Text, line = "\t\"" ++ path ++ "\""

/-- The lines of `longer` are those of `shorter` with two blocks put in: more imports at the end of
the group of imports, and behind that group the method which converts an error. -/
def HasConversion (shorter longer : List Text) : Prop :=
  ∃ before imports extra behind conversion rest : List Text,
    AreImports imports ∧ AreImports extra ∧ extra ≠ [] ∧ conversionHead ∈ conversion
      ∧ shorter = before ++ importOpening :: imports ++ [')'] :: behind ++ rest
      ∧ longer = before ++ importOpening :: imports ++ extra ++ [')'] :: behind ++ conversion ++ rest

/-- The types of one framework are those of another with a conversion added. -/
theorem Generated.TypesFile.hasConversion_lines (package : Text) :
    HasConversion (lines package .plain) (lines package .goFrame) := by
  have himports : AreImports imports.tail := by
    intro line hline
    simp only [imports, List.tail_cons, List.mem_cons, List.not_mem_nil, or_false] at hline
    rcases hline with rfl | rfl | rfl
    · exact .inr ⟨"errors", rfl⟩
    · exact .inr ⟨"fmt", rfl⟩
    · exact .inr ⟨"net/http", rfl⟩
  have hextra : AreImports goFrameImports := by
    intro line hline
    simp only [goFrameImports, List.mem_cons, List.not_mem_nil, or_false] at hline
    rcases hline with rfl | rfl | rfl
    · exact .inl rfl
    · exact .inr ⟨"github.com/gogf/gf/v2/errors/gcode", rfl⟩
    · exact .inr ⟨"github.com/gogf/gf/v2/errors/gerror", rfl⟩
  -- The declarations begin with the end of the imports.
  exact ⟨preamble package, imports.tail, goFrameImports, declarations.tail, goFrameConversion,
    lookUp, himports, hextra, List.cons_ne_nil _ _, by decide, rfl, rfl⟩

/-- Frameworks differ in nothing but the extras of each. A package is generated for all of them or
refused for all of them with the same failure: that of the first check which does not pass. A name
that no framework has is refused before anything is checked, and no name at all stands for the plain
framework. The file of errors is the same for all, the file of types is the same for the plain
framework and go-zero and has two blocks more for GoFrame, and only go-zero and GoFrame have a third
file. -/
theorem generate_frameworks (spec : PackageSpec) (entries : List Entry) :
    (∀ framework : Framework,
      (∃ files, generate { spec with target := framework.name } entries = .ok files) ↔
        spec.Accepts entries)
    ∧ (∀ (framework : Framework) (failure : Failure),
      generate { spec with target := framework.name } entries = .error failure ↔
        spec.Refuses entries failure)
    ∧ (∀ target : Text, target ≠ [] → (∀ framework : Framework, target ≠ framework.name) →
      generate { spec with target := target } entries
        = .error (.unknownTarget target ["default", "goframe", "gozero"]))
    ∧ generate { spec with target := [] } entries
        = generate { spec with target := "default" } entries
    ∧ (spec.Accepts entries →
      ∃ types coded errors handler middleware : Generated.File,
        generate { spec with target := "default" } entries = .ok [types, errors]
        ∧ generate { spec with target := "gozero" } entries = .ok [types, errors, handler]
        ∧ generate { spec with target := "goframe" } entries = .ok [coded, errors, middleware]
        ∧ [types, coded, errors, handler, middleware].map Generated.File.name
          = ["types.go", "types.go", "errors_gen.go", "handler.go", "middleware.go"]
        ∧ ∃ shorter longer, types.content = Text.unlines shorter
          ∧ coded.content = Text.unlines longer ∧ HasConversion shorter longer) := by
  refine ⟨?_, fun framework failure => generate_eq_error_iff, ?_, rfl, ?_⟩
  · intro framework
    constructor
    · rintro ⟨files, hfiles⟩
      -- A request that is not accepted is refused, and then there would be no files.
      rcases spec.accepts_or_refuses entries with haccepts | ⟨failure, hrefuses⟩
      · exact haccepts
      · have hfailure : generate { spec with target := framework.name } entries
            = .error failure := generate_eq_error_iff.2 hrefuses
        rw [hfiles] at hfailure
        cases hfailure
    · intro haccepts
      exact ⟨_, generate_of_accepts haccepts framework⟩
  · intro target hne hunknown
    simp only [generate, Registry.resolve_builtin_of_unknown hne hunknown]
  · intro haccepts
    let package := Go.packageName spec.packageName
    let importPath := Text.trimBlank spec.importPath
    refine ⟨⟨Generated.TypesFile.path, Generated.TypesFile.content package .plain⟩,
      ⟨Generated.TypesFile.path, Generated.TypesFile.content package .goFrame⟩,
      ⟨Generated.ErrorsFile.path,
        Generated.ErrorsFile.content package spec.defaultMessage entries⟩,
      ⟨Generated.HandlerFile.path, Generated.HandlerFile.content package importPath⟩,
      ⟨Generated.MiddlewareFile.path, Generated.MiddlewareFile.content package importPath⟩,
      generate_of_accepts haccepts .plain, generate_of_accepts haccepts .goZero,
      generate_of_accepts haccepts .goFrame, rfl, ?_⟩
    exact ⟨_, _, rfl, rfl, Generated.TypesFile.hasConversion_lines package⟩

end ErrorCatalog
