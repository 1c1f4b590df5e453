import ErrorCatalog.Proofs.Entry.Identifier
import ErrorCatalog.Proofs.Generated.Acceptance
import ErrorCatalog.Proofs.Generated.ErrorsReadBack
/-!
# Names of a generated package

`packageNames` reads the package-level names that a file declares, by the layout that the Go tools
give to source: a declaration starts at the beginning of a line with its keyword, and the members of
a group stand one tab in. Imports and methods declare no such names.

The names that all files of a package declare together are the fixed ones and the identifiers of the
entries. The check compares entries only with each other; it is the shape of identifiers that keeps
them apart from the fixed names.
-/

namespace ErrorCatalog

namespace Generated

open ErrorsFile (isComment sourceLines sourceLines_unlines)

/-! ## A reader for declared names -/

/-- What stands in the place of a name, legal or not: all up to a blank or a parenthesis. -/
def nameAtFront? (t : Text) : Option Text :=
  let name := t.takeWhile fun c => c != ' ' && c != '('
  if name.isEmpty then none else some name

def declarationOpenings : List Text :=
  ["const ", "func ", "type ", "var "]

def groupOpenings : List Text :=
  ["const (", "type (", "var ("]

/-- The name that a line outside of groups declares. A method has its receiver in the place of a
name. -/
def declaredName? (line : Text) : Option Text :=
  (declarationOpenings.findSome? fun opening => Text.after? opening line).bind nameAtFront?

def memberName? (line : Text) : Option Text :=
  (Text.after? "\t" line).bind nameAtFront?

/-- The names that lines declare, the first of them inside or outside of a group. -/
def namesIn (inGroup : Bool) : List Text → List Text
  | [] => []
  | line :: rest =>
      if inGroup then
        if line = [')'] then namesIn false rest
        else (memberName? line).toList ++ namesIn true rest
      else if line ∈ groupOpenings then namesIn true rest
      else (declaredName? line).toList ++ namesIn false rest

def packageNames (content : Text) : List Text :=
  namesIn false (sourceLines content)

/-! ## Reading names -/

variable {package : Text} {ls rest : List Text}

/-- Lines outside the groups declare at most one name each. -/
theorem namesIn_append (h : ∀ line ∈ ls, line ∉ groupOpenings) :
    namesIn false (ls ++ rest) = ls.filterMap declaredName? ++ namesIn false rest := by
  induction ls with
  | nil => rfl
  | cons line ls ih =>
    rcases List.forall_mem_cons.1 h with ⟨hline, hls⟩
    have hothers := ih hls
    cases hname : declaredName? line with
    | none => simp [namesIn, hline, hname, hothers]
    | some name => simp [namesIn, hline, hname, hothers]

/-- The members of a group are read up to the line that closes it. -/
theorem namesIn_group {α : Type} {write name : α → Text} {members : List α}
    (h : ∀ member ∈ members, write member ≠ [')']
      ∧ memberName? (write member) = some (name member)) :
    namesIn true (members.map write ++ [')'] :: rest) = members.map name ++ namesIn false rest := by
  induction members with
  | nil => simp [namesIn]
  | cons member members ih =>
    rcases List.forall_mem_cons.1 h with ⟨⟨hopen, hname⟩, hmembers⟩
    have hothers := ih hmembers
    simp [namesIn, hopen, hname, hothers]

/-- The beginning of a file declares nothing. -/
theorem namesIn_preamble (package : Text) (ls : List Text) :
    namesIn false ((preamble package ++ ls).filter fun line => !isComment line)
      = namesIn false (ls.filter fun line => !isComment line) := by
  have hpreamble : (preamble package).filter (fun line => !isComment line)
      = [[], ErrorsFile.packageLine package, []] := rfl
  rw [List.filter_append, hpreamble]
  rfl

/-! ## The names of each file -/

namespace TypesFile

def names : List Text :=
  ["Error", "Body", "New", "FromError"]

theorem packageNames_content (h : Go.isIdentifier package = true) (flavor : ErrorFlavor) :
    packageNames (content package flavor) = names := by
  have hsource := sourceLines_unlines (isClean_lines h flavor)
  unfold packageNames content
  rw [hsource]
  cases flavor with
  | plain =>
    -- Only the preamble depends on the package; what follows it is evaluated.
    simp only [lines, List.append_assoc, namesIn_preamble]
    simp only [imports, declarations, importsEnd, errorType, bodyType, constructor, errorMethod,
      internalMethod, statusMethod, bodyMethod, wrapMethod, unwrapMethod, isMethod, lookUp]
    repeat rw [String.toList_ofList]
    decide +kernel
  | goFrame =>
    simp only [lines, List.append_assoc, namesIn_preamble]
    simp only [imports, goFrameImports, declarations, importsEnd, errorType, bodyType, constructor,
      errorMethod, internalMethod, statusMethod, bodyMethod, wrapMethod, unwrapMethod, isMethod,
      goFrameConversion, lookUp]
    repeat rw [String.toList_ofList]
    decide +kernel

end TypesFile

namespace ErrorsFile

variable {defaultMessage : Text} {e : Entry} {entries : List Entry}

def namesBefore : List Text :=
  ["DefaultMessage"]

def namesAfter : List Text :=
  ["codes", "FromCode"]

/-- A line of a group declares the identifier that it begins with. -/
theorem memberName?_declarationLine (h : Go.isIdentifier e.identifier = true) :
    memberName? (declarationLine defaultMessage e) = some e.identifier := by
  -- The name goes up to a space or a bracket, and an identifier has neither.
  have hword (c : Char) (hc : c ∈ e.identifier) : (c != ' ' && c != '(') = true := by
    have hwordChar := Go.isWordChar_of_isIdentifier h c hc
    have hblank := Go.ne_of_isWordChar hwordChar (d := ' ') rfl
    have hparenthesis := Go.ne_of_isWordChar hwordChar (d := '(') rfl
    simp [hblank, hparenthesis]
  have hname (rest : Text) : (e.identifier ++ (" = New(" ++ rest)).takeWhile
      (fun c => c != ' ' && c != '(') = e.identifier :=
    Text.takeWhile_append_of_stops hword (Text.stops_cons.2 rfl)
  have hne := Go.ne_nil_of_isIdentifier h
  unfold declarationLine
  simp only [List.append_assoc, memberName?, Text.after?_append, Option.bind_some, nameAtFront?,
    hname]
  simp [hne]

/-- The rows of the table declare nothing. -/
theorem namesIn_map_tableLine (entries : List Entry) (rest : List Text) :
    namesIn false (entries.map tableLine ++ rest) = namesIn false rest := by
  have hrow (e : Entry) : declaredName? (tableLine e) = none := rfl
  have hopen : ∀ line ∈ entries.map tableLine, line ∉ groupOpenings := by
    intro line hline
    rcases List.mem_map.1 hline with ⟨e, -, rfl⟩
    exact of_decide_eq_false rfl
  rw [namesIn_append hopen]
  simp [hrow]

/-- The lines of the entries declare their identifiers and the table of codes. -/
theorem namesIn_valueLines (h : Entry.AreRenderable entries) (rest : List Text) :
    namesIn false (valueLines defaultMessage entries ++ rest)
      = entries.map Entry.identifier ++ ("codes" : Text) :: namesIn false rest := by
  -- The declarations stand in a group, the table behind it does not.
  have hgroup (behind : List Text) :
      namesIn true (entries.map (declarationLine defaultMessage) ++ [')'] :: behind)
        = entries.map Entry.identifier ++ namesIn false behind :=
    namesIn_group fun e he => ⟨nofun, memberName?_declarationLine (h.isIdentifier he)⟩
  have hopening (behind : List Text) :
      namesIn false (groupOpening :: behind) = namesIn true behind := rfl
  have htable (behind : List Text) :
      namesIn false ([] :: tableOpening :: behind) = ("codes" : Text) :: namesIn false behind := rfl
  simp only [valueLines, List.cons_append, List.append_assoc, hopening, hgroup, htable,
    namesIn_map_tableLine]
  rfl

theorem packageNames_content (defaultMessage : Text) (hpackage : Go.isIdentifier package = true)
    (h : Entry.AreRenderable entries) :
    packageNames (content package defaultMessage entries)
      = namesBefore ++ (entries.map Entry.identifier ++ namesAfter) := by
  have hlookUp : namesIn false (lookUp.filter fun line => !isComment line)
      = [("FromCode" : Text)] := by
    unfold lookUp
    repeat rw [String.toList_ofList]
    decide +kernel
  have htail : namesIn false (tailLines defaultMessage entries)
      = entries.map Entry.identifier ++ namesAfter := by
    unfold tailLines namesAfter
    cases entries with
    | nil =>
      have hempty (rest : List Text) :
          namesIn false (emptyTable ++ rest) = ("codes" : Text) :: namesIn false rest := rfl
      simp [hempty, hlookUp]
    | cons e rest => simp [namesIn_valueLines h, hlookUp]
  -- Of the lines before the values only the one of the message declares a name.
  have hhead (rest : List Text) :
      namesIn false ([[], packageLine package, [], messageLine defaultMessage, []] ++ rest)
        = namesBefore ++ namesIn false rest := rfl
  unfold packageNames
  rw [sourceLines_content defaultMessage hpackage h, hhead, htail]

end ErrorsFile

/-- The comments that show how to use a file declare nothing. -/
theorem namesIn_around_note {note importPath : Text} {before behind : List Text}
    (h : isComment note = true) :
    namesIn false ((preamble package ++ before ++ importNote package importPath
        ++ note :: behind).filter fun line => !isComment line)
      = namesIn false (before.filter (fun line => !isComment line)
        ++ behind.filter fun line => !isComment line) := by
  have himport : (importNote package importPath).filter (fun line => !isComment line) = [] := by
    unfold importNote
    split <;> rfl
  simp only [List.append_assoc, namesIn_preamble]
  simp only [List.filter_append, List.filter_cons, himport, h, List.nil_append, Bool.not_true,
    Bool.false_eq_true, if_false]

namespace HandlerFile

def names : List Text :=
  ["ErrorHandler"]

theorem packageNames_content (h : Go.isIdentifier package = true) (importPath : Text) :
    packageNames (content package importPath) = names := by
  have hsource := sourceLines_unlines (isClean_lines h importPath)
  have hregistration : isComment (registration package) = true := rfl
  have hfixed : namesIn false (opening.filter (fun line => !isComment line)
      ++ handler.filter fun line => !isComment line) = names := by
    unfold opening handler
    repeat rw [String.toList_ofList]
    decide +kernel
  unfold packageNames content
  rw [hsource]
  exact (namesIn_around_note hregistration).trans hfixed

end HandlerFile

namespace MiddlewareFile

def names : List Text :=
  ["ErrorMiddleware"]

theorem packageNames_content (h : Go.isIdentifier package = true) (importPath : Text) :
    packageNames (content package importPath) = names := by
  have hsource := sourceLines_unlines (isClean_lines h importPath)
  have hregistration : isComment (registration package) = true := rfl
  have hfixed : namesIn false (opening.filter (fun line => !isComment line)
      ++ middleware.filter fun line => !isComment line) = names := by
    unfold opening middleware
    repeat rw [String.toList_ofList]
    decide +kernel
  unfold packageNames content
  rw [hsource]
  exact (namesIn_around_note hregistration).trans hfixed

end MiddlewareFile

end Generated

/-! ## The names of a package -/

open Generated

namespace Framework

def namesBefore : List Text :=
  TypesFile.names ++ ErrorsFile.namesBefore

def namesAfter (framework : Framework) : List Text :=
  ErrorsFile.namesAfter ++ match framework with
    | .plain => []
    | .goZero => HandlerFile.names
    | .goFrame => MiddlewareFile.names

/-- The package-level names of a package: those of the file of types and the message for internal
errors, one for each entry, the table and the look-up, and what the framework adds. -/
def names (framework : Framework) (entries : List Entry) : List Text :=
  namesBefore ++ (entries.map Entry.identifier ++ framework.namesAfter)

variable {entries : List Entry}

/-- File by file, a framework declares the names that are listed for it. -/
theorem flatMap_packageNames_files (framework : Framework) (spec : PackageSpec) {package : Text}
    (hpackage : Go.isIdentifier package = true) (h : Entry.AreRenderable entries) :
    (framework.files package spec entries).flatMap (fun file => packageNames file.content)
      = framework.names entries := by
  have htypes := TypesFile.packageNames_content hpackage framework.errorFlavor
  have herrors := ErrorsFile.packageNames_content spec.defaultMessage hpackage h
  have hhandler := HandlerFile.packageNames_content hpackage (Text.trimBlank spec.importPath)
  have hmiddleware := MiddlewareFile.packageNames_content hpackage (Text.trimBlank spec.importPath)
  cases framework with
  | plain => simp [files, extraFiles, names, namesBefore, namesAfter, htypes, herrors]
  | goZero => simp [files, extraFiles, names, namesBefore, namesAfter, htypes, herrors, hhandler]
  | goFrame =>
    simp [files, extraFiles, names, namesBefore, namesAfter, htypes, herrors, hmiddleware]

/-- The fixed names are legal, each is declared once, and none could be the identifier of an
entry. -/
theorem fixedNames_sound (framework : Framework) :
    (namesBefore ++ framework.namesAfter).Nodup
      ∧ ∀ name ∈ namesBefore ++ framework.namesAfter,
        Go.isIdentifier name = true ∧ Entry.isShapedAsIdentifier name = false := by
  cases framework <;> decide +kernel

/-- The names are those of the entries and some fixed ones. -/
theorem names_perm (framework : Framework) (entries : List Entry) :
    (framework.names entries).Perm
      (entries.map Entry.identifier ++ (namesBefore ++ framework.namesAfter)) :=
  List.perm_append_comm_assoc ..

/-- No entry takes a fixed name, and no two entries share one, so all names are distinct. -/
theorem nodup_names (framework : Framework) (h : Entry.AreRenderable entries) :
    (framework.names entries).Nodup := by
  rcases framework.fixedNames_sound with ⟨hnodup, hfixed⟩
  rw [(framework.names_perm entries).nodup_iff, List.nodup_append']
  refine ⟨h.nodup_identifier, hnodup, ?_⟩
  intro name hmem hname
  rcases List.mem_map.1 hmem with ⟨e, -, rfl⟩
  exact Entry.identifier_ne (hfixed _ hname).2 e rfl

/-- All names declared are identifiers of the language. -/
theorem isIdentifier_of_mem_names {framework : Framework} {name : Text}
    (h : Entry.AreRenderable entries) (hname : name ∈ framework.names entries) :
    Go.isIdentifier name = true := by
  rcases List.mem_append.1 ((framework.names_perm entries).mem_iff.1 hname) with hmem | hfixed
  · rcases List.mem_map.1 hmem with ⟨e, he, rfl⟩
    exact h.isIdentifier he
  · exact (framework.fixedNames_sound.2 name hfixed).1

end Framework

variable {entries : List Entry}

/-- Entries that pass the check give packages whose package-level names are legal and pairwise
distinct, under every framework. -/
theorem generate_packageNames (h : Entry.firstFault? entries = none) (framework : Framework) :
    (framework.names entries).Nodup
      ∧ (∀ name ∈ framework.names entries, Go.isIdentifier name = true)
      ∧ (∀ spec : PackageSpec, Registry.builtin.resolve spec.target = .ok framework →
          Go.isIdentifier (Go.packageName spec.packageName) = true →
          ¬ Text.IsBlankText spec.defaultMessage →
          ∃ files, generate spec entries = .ok files
            ∧ files.flatMap (fun file => packageNames file.content) = framework.names entries)
      ∧ ∀ e : Entry,
          e.identifier ≠ "Error" ∧ e.identifier ≠ "ErrorHandler"
            ∧ e.identifier ≠ "ErrorMiddleware" := by
  have hrenderable := Entry.firstFault?_eq_none_iff.1 h
  refine ⟨framework.nodup_names hrenderable,
    fun name => Framework.isIdentifier_of_mem_names hrenderable, ?_, ?_⟩
  · intro spec hresolve hpackage hmessage
    -- The premises are those of acceptance, so there are files to read the names from.
    have haccept := PackageSpec.accept_eq_ok_iff.2 ⟨rfl, hpackage, hmessage, h⟩
    have hnames := framework.flatMap_packageNames_files spec hpackage hrenderable
    refine ⟨_, ?_, hnames⟩
    unfold generate
    simp only [hresolve]
    exact Framework.generate_eq_ok_iff.2 ⟨_, haccept, rfl⟩
  · intro e
    exact ⟨e.identifier_ne rfl, e.identifier_ne rfl, e.identifier_ne rfl⟩

/-- Names whose identifiers come close to fixed ones, a Kelvin sign and a ligature. -/
theorem exists_packageNames_of_or_handler :
    ∃ entries : List Entry,
      entries.map Entry.name = (["OR", "or_handler", "\u212AEY", "\uFB00_ßa"] : List Text)
      ∧ Entry.firstFault? entries = none
      ∧ (Framework.goZero.names entries).Nodup
      ∧ ∃ files, generate ⟨"acme/my-app", [], "gozero", "busy"⟩ entries = .ok files
        ∧ files.flatMap (fun file => packageNames file.content)
          = (["Error", "Body", "New", "FromError", "DefaultMessage", "ErrOr", "ErrOrHandler",
              "ErrKey", "ErrFFSSa", "codes", "FromCode", "ErrorHandler"] : List Text) := by
  have hcheck : Entry.firstFault? [⟨1, "OR", [], 0, []⟩, ⟨2, "or_handler", [], 0, []⟩,
      ⟨3, "\u212AEY", [], 0, []⟩, ⟨4, "\uFB00_ßa", [], 400, "bad"⟩] = none := by
    decide +kernel
  have hmessage : ¬ Text.IsBlankText "busy" := by
    intro hblank
    cases hblank 'b' (by decide)
  rcases generate_packageNames hcheck .goZero with ⟨hnodup, -, hgenerate, -⟩
  rcases hgenerate ⟨"acme/my-app", [], "gozero", "busy"⟩ rfl (by decide +kernel) hmessage with
    ⟨files, hfiles, hnames⟩
  exact ⟨_, rfl, hcheck, hnodup, files, hfiles, hnames.trans (by decide +kernel)⟩

end ErrorCatalog
