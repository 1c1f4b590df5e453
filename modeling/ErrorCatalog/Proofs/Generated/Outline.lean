import ErrorCatalog.Proofs.Generated.Acceptance
import ErrorCatalog.Proofs.Generated.CleanLines
/-!
# The outline of a package

How many lines each file of a package has follows from the framework, the number of entries and
whether the import path is known. No name, message, comment or path has any influence on it, since
none of them brings a line end with it.
-/

namespace ErrorCatalog

namespace Generated

/-! ## Counting lines -/

/-- The number of lines depends on the flavor only. -/
theorem TypesFile.length_lines (package : Text) (flavor : ErrorFlavor) :
    (lines package flavor).length = match flavor with
      | .plain => 80
      | .goFrame => 92 := by
  cases flavor <;> rfl

/-- An entry has two lines in the group of values and one in the table. -/
theorem ErrorsFile.length_entryLines (defaultMessage : Text) (entries : List Entry) :
    (entryLines defaultMessage entries).length = 3 * entries.length + 6 := by
  simp only [entryLines, List.length_append, List.length_cons, List.length_flatMap, List.length_map,
    List.length_nil, List.map_const', List.sum_replicate_nat]
  omega

/-- Every entry adds three lines; without entries the groups are left out. -/
theorem ErrorsFile.length_lines (package defaultMessage : Text) (entries : List Entry) :
    (lines package defaultMessage entries).length
      = if entries.length = 0 then 14 else 3 * entries.length + 18 := by
  have hpreamble : (preamble package).length = 4 := rfl
  have hmessage : (messageLines defaultMessage).length = 3 := rfl
  have hlookUp : lookUp.length = 5 := rfl
  have hvalues : (if entries.isEmpty then emptyTable else entryLines defaultMessage entries).length
      = if entries.length = 0 then 2 else 3 * entries.length + 6 := by
    -- The table stands alone when there are no entries.
    cases entries with
    | nil => rfl
    | cons e rest => exact length_entryLines defaultMessage (e :: rest)
  simp only [lines, List.length_append, hpreamble, hmessage, hvalues, hlookUp]
  split_ifs
  · rfl
  · omega

/-- A note about the import path takes two lines, unless the path is blank. -/
theorem HandlerFile.length_lines (package importPath : Text) :
    (lines package importPath).length = if importPath.isEmpty then 29 else 31 := by
  cases importPath <;> rfl

theorem MiddlewareFile.length_lines (package importPath : Text) :
    (lines package importPath).length = if importPath.isEmpty then 40 else 42 := by
  cases importPath <;> rfl

end Generated

open Generated

variable {spec : PackageSpec} {entries : List Entry} {files : List File}

/-- The files of a package with the number of their lines. -/
def Framework.outline (framework : Framework) (entryCount : Nat) (importIsBlank : Bool) :
    List (Text × Nat) :=
  let types := match framework.errorFlavor with
    | .plain => 80
    | .goFrame => 92
  let errors := if entryCount = 0 then 14 else 3 * entryCount + 18
  let extra := match framework with
    | .plain => []
    | .goZero => [(HandlerFile.path, if importIsBlank then 29 else 31)]
    | .goFrame => [(MiddlewareFile.path, if importIsBlank then 40 else 42)]
  (TypesFile.path, types) :: (ErrorsFile.path, errors) :: extra

/-- File by file, the number of lines depends on the number of entries and on a blank import
path. -/
theorem Framework.map_length_sources (framework : Framework) (package : Text) (spec : PackageSpec)
    (entries : List Entry) :
    (framework.sources package spec entries).map (fun source => (source.1, source.2.length))
      = framework.outline entries.length (Text.trimBlank spec.importPath).isEmpty := by
  cases framework with
  | plain => simp [sources, outline, TypesFile.length_lines, ErrorsFile.length_lines]
  | goZero =>
    simp [sources, outline, TypesFile.length_lines, ErrorsFile.length_lines,
      HandlerFile.length_lines]
  | goFrame =>
    simp [sources, outline, TypesFile.length_lines, ErrorsFile.length_lines,
      MiddlewareFile.length_lines]

/-! ## Generated packages -/

/-- The files of a generated package are whole lines without control characters but tabs, and their
number is that of the outline. -/
theorem generate_outline (h : generate spec entries = .ok files) :
    ∃ framework, Registry.builtin.resolve spec.target = .ok framework
      ∧ files.map (fun file => (file.path, (Text.lines file.content).length))
        = framework.outline entries.length (Text.trimBlank spec.importPath).isEmpty
      ∧ ∀ file ∈ files, file.content.getLast? = some '\n'
        ∧ ∀ c ∈ file.content, Text.isControl c = true → c = '\n' ∨ c = '\t' := by
  rcases exists_framework_of_generate h with ⟨framework, hresolve, hpackage, hrenderable, rfl⟩
  have hclean (source : Text × List Text)
      (hsource : source ∈ framework.sources (Go.packageName spec.packageName) spec entries) :
      ∀ line ∈ source.2, Text.IsClean line :=
    Framework.isClean_of_mem_sources hpackage hrenderable hsource
  rw [Framework.files_eq_map_sources]
  refine ⟨framework, hresolve, ?_, ?_⟩
  · -- The lines that are counted are the lines that were written.
    rw [← Framework.map_length_sources framework (Go.packageName spec.packageName), List.map_map]
    apply List.map_congr_left
    intro source hsource
    have hlines := Text.lines_unlines_of_isClean (hclean source hsource)
    simp only [Function.comp_apply, hlines]
  · intro file hfile
    rcases List.mem_map.1 hfile with ⟨source, hsource, rfl⟩
    constructor
    · apply Text.getLast?_unlines
      intro hnil
      have hhead := Framework.head?_of_mem_sources hsource
      rw [hnil] at hhead
      cases hhead
    · intro c hc hcontrol
      rcases Text.mem_of_mem_unlines hc with ⟨line, hline, hmem⟩ | hfeed
      · rcases hclean source hsource line hline c hmem with hfalse | htab
        · rw [hcontrol] at hfalse
          cases hfalse
        · exact .inr htab
      · exact .inl hfeed

/-- Line ends in every text that comes from outside. -/
theorem exists_outline_of_line_ends :
    ∃ files,
      generate ⟨"acme/my-app\n", "acme\nmy-app", "gozero", "a\r\nb"⟩
        [⟨1, "FIRST", "secret\n)\nvar x = 1", 0, []⟩, ⟨2, "SECOND", [], 400, "bad\n\"name\""⟩]
          = .ok files
      ∧ files.map (fun file => (file.path, (Text.lines file.content).length))
        = [(TypesFile.path, 80), (ErrorsFile.path, 24), (HandlerFile.path, 31)]
      ∧ ∀ file ∈ files, file.content.getLast? = some '\n'
        ∧ ∀ c ∈ file.content, Text.isControl c = true → c = '\n' ∨ c = '\t' := by
  obtain ⟨files, hfiles⟩ :
      ∃ files, generate ⟨"acme/my-app\n", "acme\nmy-app", "gozero", "a\r\nb"⟩
        [⟨1, "FIRST", "secret\n)\nvar x = 1", 0, []⟩, ⟨2, "SECOND", [], 400, "bad\n\"name\""⟩]
          = .ok files :=
    ⟨_, rfl⟩
  rcases generate_outline hfiles with ⟨framework, hresolve, houtline, hclean⟩
  have hgoZero : Registry.builtin.resolve "gozero" = .ok .goZero := rfl
  cases hgoZero.symm.trans hresolve
  exact ⟨files, hfiles, houtline, hclean⟩

end ErrorCatalog
