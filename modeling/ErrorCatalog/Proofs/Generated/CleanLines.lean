import ErrorCatalog.Proofs.Generated.Acceptance
import ErrorCatalog.Proofs.Go.FreeText
import ErrorCatalog.Proofs.Text.Control
/-!
# Lines of generated files

Every line of every generated file is clean. The text that comes from outside takes one of three
ways into a line, as an identifier, a literal or a comment, and none of them lets a control
character through. A file is the text of its lines, so a package is known by its
`Framework.sources`, the lines of each of its files.
-/

namespace ErrorCatalog

namespace Generated

open Text (IsClean)

variable {package : Text}

/-! ## Text from outside -/

/-- Whatever a string holds, its literal fits on a line. -/
theorem isClean_stringLiteral (t : Text) : IsClean (Go.stringLiteral t) :=
  Text.isClean_of_not_isControl fun _ hc => Go.isControl_of_mem_stringLiteral hc

/-- Whatever a comment holds, it fits on a line. -/
theorem isClean_lineComment (t : Text) : IsClean (Go.lineComment t) :=
  Text.isClean_of_not_isControl fun _ hc => Go.isControl_of_mem_lineComment hc

theorem isClean_identifier {t : Text} (h : Go.isIdentifier t = true) : IsClean t :=
  Text.isClean_of_isWordChar (Go.isWordChar_of_isIdentifier h)

/-! ## Common lines -/

/-- The head of a file is clean if the package has a proper name. -/
theorem isClean_preamble (h : Go.isIdentifier package = true) :
    ∀ line ∈ preamble package, IsClean line := by
  unfold preamble header
  repeat rw [String.toList_ofList]
  simp only [List.forall_mem_cons, Text.isClean_append]
  exact ⟨by decide, by decide, ⟨by decide, isClean_identifier h⟩, by decide⟩

/-- The import path stands in a comment, so any path is clean. -/
theorem isClean_importNote (h : Go.isIdentifier package = true) (importPath : Text) :
    ∀ line ∈ importNote package importPath, IsClean line := by
  unfold importNote
  split
  · simp
  · simp only [List.forall_mem_cons, Text.isClean_append]
    exact ⟨⟨⟨⟨by decide, isClean_identifier h⟩, by decide⟩, isClean_stringLiteral importPath⟩,
      by decide⟩

/-! ## The file of types -/

namespace TypesFile

/-- No fixed line of the file has a control character but tabs. -/
theorem isClean_fixed_lines :
    ∀ line ∈ imports ++ goFrameImports ++ declarations ++ goFrameConversion ++ lookUp,
      IsClean line := by
  simp only [imports, goFrameImports, declarations, importsEnd, errorType, bodyType, constructor,
    errorMethod, internalMethod, statusMethod, bodyMethod, wrapMethod, unwrapMethod, isMethod,
    goFrameConversion, lookUp]
  -- Literals are checked character by character only once they are lists of characters.
  repeat rw [String.toList_ofList]
  decide +kernel

/-- The import path is all that a request puts into the file beside the package. -/
theorem isClean_lines (h : Go.isIdentifier package = true) (flavor : ErrorFlavor) :
    ∀ line ∈ lines package flavor, IsClean line := by
  have hpreamble := isClean_preamble h
  have hfixed := isClean_fixed_lines
  simp only [List.forall_mem_append] at hfixed
  obtain ⟨⟨⟨⟨himports, hgoFrame⟩, hdeclarations⟩, hconversion⟩, hlookUp⟩ := hfixed
  cases flavor with
  | plain =>
    simp only [lines, List.forall_mem_append]
    exact ⟨⟨⟨hpreamble, himports⟩, hdeclarations⟩, hlookUp⟩
  | goFrame =>
    simp only [lines, List.forall_mem_append]
    exact ⟨⟨⟨⟨⟨hpreamble, himports⟩, hgoFrame⟩, hdeclarations⟩, hconversion⟩, hlookUp⟩

end TypesFile

/-! ## The file of errors -/

namespace ErrorsFile

variable {defaultMessage : Text} {e : Entry} {entries : List Entry}

/-- A note is a comment that stays on its line, as far as the identifier does. -/
theorem exists_noteLine_eq (e : Entry) :
    ∃ text, noteLine e = "\t// " ++ (e.identifier ++ text) ∧ IsClean text := by
  have hnote := isClean_lineComment e.description
  have hstatus := Text.isClean_ofInt e.httpStatus
  unfold noteLine
  simp only [List.append_assoc]
  split
  · split
    · -- An internal entry without comment: a fixed text.
      exact ⟨_, rfl, by decide⟩
    · refine ⟨_, rfl, ?_⟩
      simp only [Text.isClean_append]
      exact ⟨by decide, hnote, by decide⟩
  · -- A public entry, whose note ends with its status.
    refine ⟨_, rfl, ?_⟩
    simp only [Text.isClean_append]
    exact ⟨by decide, hnote, by decide, hstatus, by decide⟩

theorem isClean_noteLine (h : Go.isIdentifier e.identifier = true) : IsClean (noteLine e) := by
  rcases exists_noteLine_eq e with ⟨text, heq, htext⟩
  simp only [heq, Text.isClean_append]
  exact ⟨by decide, isClean_identifier h, htext⟩

/-- A declaration quotes the message, so any message is clean. -/
theorem isClean_declarationLine (h : Go.isIdentifier e.identifier = true) :
    IsClean (declarationLine defaultMessage e) := by
  unfold declarationLine
  simp only [Text.isClean_append, List.append_assoc]
  exact ⟨by decide, isClean_identifier h, by decide, Text.isClean_ofInt e.code, by decide,
    isClean_stringLiteral _, by decide, Text.isClean_ofInt e.httpStatus, by decide⟩

theorem isClean_tableLine (h : Go.isIdentifier e.identifier = true) : IsClean (tableLine e) := by
  unfold tableLine
  simp only [Text.isClean_append, List.append_assoc]
  exact ⟨by decide, Text.isClean_ofInt e.code, by decide, isClean_identifier h, by decide⟩

/-- All that depends on the entries is clean. -/
theorem isClean_entryLines (h : Entry.AreRenderable entries) :
    ∀ line ∈ entryLines defaultMessage entries, IsClean line := by
  have hvalues : ∀ line ∈ entries.flatMap fun e => [noteLine e, declarationLine defaultMessage e],
      IsClean line := by
    intro line hline
    rcases List.mem_flatMap.1 hline with ⟨e, he, hline⟩
    have hidentifier := h.isIdentifier he
    simp only [List.mem_cons, List.not_mem_nil, or_false] at hline
    rcases hline with rfl | rfl
    · exact isClean_noteLine hidentifier
    · exact isClean_declarationLine hidentifier
  have hrows : ∀ line ∈ entries.map tableLine, IsClean line := by
    intro line hline
    rcases List.mem_map.1 hline with ⟨e, he, rfl⟩
    exact isClean_tableLine (h.isIdentifier he)
  -- The other lines are fixed.
  simp only [entryLines, List.cons_append, List.forall_mem_append, List.forall_mem_cons]
  exact ⟨by decide, ⟨⟨hvalues, by decide⟩, hrows⟩, by decide⟩

theorem isClean_lines (hpackage : Go.isIdentifier package = true)
    (h : Entry.AreRenderable entries) :
    ∀ line ∈ lines package defaultMessage entries, IsClean line := by
  have hpreamble := isClean_preamble hpackage
  have hmessage : ∀ line ∈ messageLines defaultMessage, IsClean line := by
    unfold messageLines
    repeat rw [String.toList_ofList]
    simp only [List.forall_mem_cons, Text.isClean_append]
    exact ⟨by decide, ⟨by decide, isClean_stringLiteral defaultMessage⟩, by decide⟩
  -- The lines that do not depend on the request are evaluated.
  have hfixed : ∀ line ∈ emptyTable ++ lookUp, IsClean line := by
    unfold emptyTable lookUp
    repeat rw [String.toList_ofList]
    decide +kernel
  rw [List.forall_mem_append] at hfixed
  have hvalues : ∀ line ∈ (if entries.isEmpty then emptyTable
      else entryLines defaultMessage entries), IsClean line := by
    split
    · exact hfixed.1
    · exact isClean_entryLines h
  simp only [lines, List.forall_mem_append]
  exact ⟨⟨⟨hpreamble, hmessage⟩, hvalues⟩, hfixed.2⟩

end ErrorsFile

/-! ## The files of frameworks -/

namespace HandlerFile

/-- The handler does not depend on the request; its lines are clean as they stand. -/
theorem isClean_fixed_lines : ∀ line ∈ opening ++ handler, IsClean line := by
  simp only [opening, handler]
  repeat rw [String.toList_ofList]
  decide +kernel

theorem isClean_lines (h : Go.isIdentifier package = true) (importPath : Text) :
    ∀ line ∈ lines package importPath, IsClean line := by
  have hpreamble := isClean_preamble h
  have hnote := isClean_importNote h importPath
  have hfixed := isClean_fixed_lines
  have hregistration : IsClean (registration package) := by
    unfold registration
    repeat rw [String.toList_ofList]
    simp only [Text.isClean_append]
    exact ⟨⟨by decide, isClean_identifier h⟩, by decide⟩
  simp only [List.forall_mem_append] at hfixed
  simp only [lines, List.forall_mem_append, List.forall_mem_cons]
  exact ⟨⟨⟨hpreamble, hfixed.1⟩, hnote⟩, hregistration, hfixed.2⟩

end HandlerFile

namespace MiddlewareFile

/-- Nor does the middleware depend on the request. -/
theorem isClean_fixed_lines : ∀ line ∈ opening ++ middleware, IsClean line := by
  simp only [opening, middleware]
  repeat rw [String.toList_ofList]
  decide +kernel

theorem isClean_lines (h : Go.isIdentifier package = true) (importPath : Text) :
    ∀ line ∈ lines package importPath, IsClean line := by
  have hpreamble := isClean_preamble h
  have hnote := isClean_importNote h importPath
  have hfixed := isClean_fixed_lines
  have hregistration : IsClean (registration package) := by
    unfold registration
    repeat rw [String.toList_ofList]
    simp only [Text.isClean_append]
    exact ⟨⟨by decide, isClean_identifier h⟩, by decide⟩
  simp only [List.forall_mem_append] at hfixed
  simp only [lines, List.forall_mem_append, List.forall_mem_cons]
  exact ⟨⟨⟨hpreamble, hfixed.1⟩, hnote⟩, hregistration, hfixed.2⟩

end MiddlewareFile

end Generated

/-! ## Whole packages -/

namespace Framework

open Generated

variable {package : Text} {entries : List Entry}

def sources (framework : Framework) (package : Text) (spec : PackageSpec) (entries : List Entry) :
    List (Text × List Text) :=
  (TypesFile.path, TypesFile.lines package framework.errorFlavor)
    :: (ErrorsFile.path, ErrorsFile.lines package spec.defaultMessage entries)
    :: match framework with
      | .plain => []
      | .goZero => [(HandlerFile.path, HandlerFile.lines package (Text.trimBlank spec.importPath))]
      | .goFrame =>
          [(MiddlewareFile.path, MiddlewareFile.lines package (Text.trimBlank spec.importPath))]

/-- The files of a framework are its sources, each joined to one text. -/
theorem files_eq_map_sources (framework : Framework) (package : Text) (spec : PackageSpec)
    (entries : List Entry) :
    framework.files package spec entries
      = (framework.sources package spec entries).map
        fun source => ⟨source.1, Text.unlines source.2⟩ := by
  cases framework <;> rfl

variable {framework : Framework} {spec : PackageSpec} {source : Text × List Text}

/-- Every file starts with the line by which Go tools know it. -/
theorem head?_of_mem_sources (hmem : source ∈ framework.sources package spec entries) :
    source.2.head? = some header := by
  rcases List.mem_cons.1 hmem with rfl | hmem
  · cases framework <;> rfl
  -- Every framework starts with the same two files and may add one.
  rcases List.mem_cons.1 hmem with rfl | hextra
  · rfl
  cases framework with
  | plain => cases hextra
  | goZero =>
    rw [List.mem_singleton.1 hextra]
    rfl
  | goFrame =>
    rw [List.mem_singleton.1 hextra]
    rfl

/-- Every line of every source is clean, file by file. -/
theorem isClean_of_mem_sources (hpackage : Go.isIdentifier package = true)
    (h : Entry.AreRenderable entries) (hmem : source ∈ framework.sources package spec entries) :
    ∀ line ∈ source.2, Text.IsClean line := by
  rcases List.mem_cons.1 hmem with rfl | hmem
  · exact TypesFile.isClean_lines hpackage _
  rcases List.mem_cons.1 hmem with rfl | hextra
  · exact ErrorsFile.isClean_lines hpackage h
  cases framework with
  | plain => cases hextra
  | goZero =>
    rw [List.mem_singleton.1 hextra]
    exact HandlerFile.isClean_lines hpackage _
  | goFrame =>
    rw [List.mem_singleton.1 hextra]
    exact MiddlewareFile.isClean_lines hpackage _

end Framework

end ErrorCatalog
