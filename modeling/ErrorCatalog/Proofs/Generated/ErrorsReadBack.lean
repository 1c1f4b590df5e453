import ErrorCatalog.Proofs.Generated.Acceptance
import ErrorCatalog.Proofs.Generated.CleanLines
import ErrorCatalog.Proofs.Generated.ErrorsReader
/-!
# Reading back the file of errors

Whatever the messages and comments are, the file of errors of a package that can be generated is
read back to what it was generated from. No line is left before its end, so the lines are those that
were written; the comments among them are the ones written as comments; and the accepted entries
have identifiers that end where they should.

Two packages with the same file of errors therefore agree in everything that the file is about: the
name of the package, the message for internal errors, and of each entry all but the comment of an
internal one.
-/

namespace ErrorCatalog

namespace Generated

namespace ErrorsFile

variable {defaultMessage package : Text} {e : Entry} {entries : List Entry}

/-! ## Comments and source -/

/-- The lines that are read are the lines that were written. -/
theorem sourceLines_unlines {ls : List Text} (h : ∀ line ∈ ls, Text.IsClean line) :
    sourceLines (Text.unlines ls) = ls.filter fun line => !isComment line := by
  have hlines := Text.lines_unlines_of_isClean h
  unfold sourceLines
  rw [hlines]

theorem isComment_noteLine (e : Entry) : isComment (noteLine e) = true := by
  rcases exists_noteLine_eq e with ⟨text, heq, -⟩
  rw [heq]
  rfl

/-- What starts with something other than a tab or a slash is source. -/
theorem isComment_append {w : Text} (rest : Text) (hne : w ≠ [])
    (h : ∀ c ∈ w, c ≠ '\t' ∧ c ≠ '/') : isComment (w ++ rest) = false := by
  cases w with
  | nil => exact absurd rfl hne
  | cons c w =>
    rcases h c List.mem_cons_self with ⟨htab, hslash⟩
    simp [isComment, htab, Text.after?, Ne.symm hslash]

/-- A line that begins with a word is no comment. -/
theorem isComment_of_isWordChar {w : Text} (rest : Text) (hne : w ≠ [])
    (h : ∀ c ∈ w, Go.isWordChar c = true) : isComment (w ++ rest) = false :=
  isComment_append rest hne fun c hc =>
    ⟨Go.ne_of_isWordChar (h c hc) rfl, Go.ne_of_isWordChar (h c hc) rfl⟩

/-- A declaration begins with an identifier, so the reader does not skip it. -/
theorem isComment_declarationLine (h : Go.isIdentifier e.identifier = true) :
    isComment (declarationLine defaultMessage e) = false := by
  unfold declarationLine
  simp only [List.append_assoc]
  change isComment (e.identifier ++ _) = false
  exact isComment_of_isWordChar _ (Go.ne_nil_of_isIdentifier h) (Go.isWordChar_of_isIdentifier h)

theorem isComment_tableLine (e : Entry) : isComment (tableLine e) = false := by
  unfold tableLine
  simp only [List.append_assoc]
  change isComment (Text.ofInt e.code ++ _) = false
  cases e.code with
  | ofNat n =>
    have hdigits := Text.isNumeral_ofNat n
    exact isComment_of_isWordChar _ hdigits.ne_nil
      fun c hc => Go.isWordChar_of_isDigit (hdigits.isDigit c hc)
  | negSucc n => rfl

/-! ## The whole file -/

def valueLines (defaultMessage : Text) (entries : List Entry) : List Text :=
  groupOpening :: (entries.map (declarationLine defaultMessage)
    ++ [')'] :: [] :: tableOpening :: (entries.map tableLine ++ [['\x7d'], []]))

/-- Of the two lines for each entry only the declaration is source. -/
theorem filter_flatMap_lines (h : ∀ e ∈ entries, Go.isIdentifier e.identifier = true) :
    (entries.flatMap fun e => [noteLine e, declarationLine defaultMessage e]).filter
      (fun line => !isComment line) = entries.map (declarationLine defaultMessage) := by
  induction entries with
  | nil => rfl
  | cons e rest ih =>
    rcases List.forall_mem_cons.1 h with ⟨he, hrest⟩
    -- The note of `e` goes, its declaration stays, and the rest is as before.
    simp [isComment_noteLine, isComment_declarationLine he, ih hrest]

theorem filter_map_tableLine (entries : List Entry) :
    (entries.map tableLine).filter (fun line => !isComment line) = entries.map tableLine := by
  apply List.filter_eq_self.2
  intro line hline
  rcases List.mem_map.1 hline with ⟨e, -, rfl⟩
  simp [isComment_tableLine]

/-- Without the notes, the lines of the entries are their values. -/
theorem filter_entryLines (h : Entry.AreRenderable entries) :
    (entryLines defaultMessage entries).filter (fun line => !isComment line)
      = valueLines defaultMessage entries := by
  have hvalues : (entries.flatMap fun e => [noteLine e, declarationLine defaultMessage e]).filter
      (fun line => !isComment line) = entries.map (declarationLine defaultMessage) :=
    filter_flatMap_lines fun e he => h.isIdentifier he
  have hrows := filter_map_tableLine entries
  have hend : [['\x7d'], []].filter (fun line => !isComment line) = [['\x7d'], []] := rfl
  simp only [entryLines, valueLines, List.cons_append, List.filter_append, List.filter_cons,
    hvalues, hrows, hend, List.append_assoc, List.nil_append]
  -- What is left are the fixed lines, and none of them is a comment.
  rfl

/-- The reader takes the declarations and the rows, and leaves what follows. -/
theorem readValues?_valueLines (h : Entry.AreRenderable entries) (rest : List Text) :
    readValues? (valueLines defaultMessage entries ++ rest)
      = some (entries.map (declaration defaultMessage), entries.map row, [] :: rest) := by
  -- The line that closes a group begins with no identifier, so no line of the group is taken for
  -- it.
  have hdeclarations (behind : List Text) :
      readGroup? readDeclaration? [')']
          (entries.map (declarationLine defaultMessage) ++ [')'] :: behind)
        = some (entries.map (declaration defaultMessage), behind) :=
    readGroup?_append behind fun e he =>
      ⟨nofun, readDeclaration?_declarationLine (h.isIdentifier he)⟩
  have hrows : readGroup? readRow? ['\x7d'] (entries.map tableLine ++ ['\x7d'] :: [] :: rest)
      = some (entries.map row, [] :: rest) :=
    readGroup?_append ([] :: rest) fun e he => ⟨nofun, readRow?_tableLine (h.isIdentifier he)⟩
  simp only [valueLines, List.cons_append, List.append_assoc, List.nil_append, readValues?, if_pos,
    hdeclarations, hrows, Option.bind_eq_bind, Option.bind_some]

def reading (package defaultMessage : Text) (entries : List Entry) : Reading :=
  ⟨package, Go.stringLiteral defaultMessage, entries.map (declaration defaultMessage),
    entries.map row⟩

def tailLines (defaultMessage : Text) (entries : List Entry) : List Text :=
  (if entries.isEmpty then emptyTable else valueLines defaultMessage entries)
    ++ lookUp.filter fun line => !isComment line

/-- Cutting the error file at its line feeds gives back the lines it was joined from. -/
theorem sourceLines_content (defaultMessage : Text) (hpackage : Go.isIdentifier package = true)
    (h : Entry.AreRenderable entries) :
    sourceLines (content package defaultMessage entries)
      = [[], packageLine package, [], messageLine defaultMessage, []]
        ++ tailLines defaultMessage entries := by
  have hpreamble : (preamble package).filter (fun line => !isComment line)
      = [[], packageLine package, []] := rfl
  have hmessage : (messageLines defaultMessage).filter (fun line => !isComment line)
      = [messageLine defaultMessage, []] := rfl
  -- Without entries there are no notes to filter out.
  have hvalues : (if entries.isEmpty then emptyTable else entryLines defaultMessage entries).filter
        (fun line => !isComment line)
      = if entries.isEmpty then emptyTable else valueLines defaultMessage entries := by
    split
    · rfl
    · exact filter_entryLines h
  calc
    sourceLines (content package defaultMessage entries)
        = (lines package defaultMessage entries).filter fun line => !isComment line :=
          sourceLines_unlines (isClean_lines hpackage h)
    _ = ([[], packageLine package, []] ++ [messageLine defaultMessage, []])
          ++ (if entries.isEmpty then emptyTable else valueLines defaultMessage entries)
          ++ lookUp.filter fun line => !isComment line := by
          simp only [lines, List.filter_append, hpreamble, hmessage, hvalues]
    _ = [[], packageLine package, [], messageLine defaultMessage, []]
          ++ tailLines defaultMessage entries := by
          simp only [tailLines, List.cons_append, List.nil_append]

/-- Behind the default message the reader finds every declaration and every row. -/
theorem readValues?_tailLines (defaultMessage : Text) (h : Entry.AreRenderable entries) :
    readValues? (tailLines defaultMessage entries)
      = some (entries.map (declaration defaultMessage), entries.map row,
          [] :: lookUp.filter fun line => !isComment line) := by
  unfold tailLines
  split
  · next hempty =>
    -- Without entries the table is one line and there is no group.
    have hnil := List.isEmpty_iff.1 hempty
    subst hnil
    rfl
  · exact readValues?_valueLines h _

/-- The reader never fails on an error file, and it gives back what the file was made of. -/
theorem read?_content (hpackage : Go.isIdentifier package = true)
    (h : Entry.AreRenderable entries) :
    read? (content package defaultMessage entries)
      = some (reading package defaultMessage entries) := by
  have hsource := sourceLines_content defaultMessage hpackage h
  have hvalues := readValues?_tailLines defaultMessage h
  have hclause := readPackage?_packageLine hpackage
  have hmessage := readMessage?_messageLine defaultMessage
  simp [read?, hsource, hclause, hmessage, hvalues, reading]

/-! ## What the file determines -/

/-- What a declaration keeps of an entry: all of a public one, and of an internal one its name and
its code. -/
def kept (e : Entry) : Text × Int × Option (Int × Text) :=
  (e.identifier, e.code, if e.httpStatus = 0 then none else some (e.httpStatus, e.httpMessage))

/-- A declaration tells all that is kept of its entry. -/
theorem kept_eq_of_declaration_eq {e' : Entry}
    (h : declaration defaultMessage e = declaration defaultMessage e') : kept e = kept e' := by
  simp only [declaration, Declaration.mk.injEq] at h
  rcases h with ⟨hidentifier, hcode, hmessage, hstatus⟩
  have hclient := Go.stringLiteral_injective hmessage
  by_cases hinternal : e'.httpStatus = 0
  · simp [kept, hidentifier, hcode, hstatus, hinternal]
  · -- Both are public, so the literals are those of their own messages.
    have hmessages : e.httpMessage = e'.httpMessage := by
      simpa [clientMessage, Entry.isInternal, hstatus, hinternal] using hclient
    simp [kept, hidentifier, hcode, hstatus, hmessages]

/-- What is read determines what was written. -/
theorem reading_injective {package' defaultMessage' : Text} {entries' : List Entry}
    (h : reading package defaultMessage entries = reading package' defaultMessage' entries') :
    package = package' ∧ defaultMessage = defaultMessage'
      ∧ entries.map kept = entries'.map kept := by
  simp only [reading, Reading.mk.injEq] at h
  rcases h with ⟨hpackage, hmessage, hdeclarations, -⟩
  have hsame := Go.stringLiteral_injective hmessage
  subst hsame
  refine ⟨hpackage, rfl, ?_⟩
  -- Equal lists of declarations have equal declarations place by place.
  rw [← List.forall₂_eq_eq_eq, List.forall₂_map_left_iff, List.forall₂_map_right_iff]
    at hdeclarations ⊢
  exact hdeclarations.imp fun _ _ => kept_eq_of_declaration_eq

end ErrorsFile

end Generated

/-! ## Generated packages -/

open Generated

variable {spec : PackageSpec} {entries : List Entry} {files : List Generated.File}

def errorsContent (spec : PackageSpec) (entries : List Entry) : Text :=
  ErrorsFile.content (Go.packageName spec.packageName) spec.defaultMessage entries

/-- Every framework has the error file once. -/
theorem filter_files_eq (framework : Framework) (package : Text) (spec : PackageSpec)
    (entries : List Entry) :
    (framework.files package spec entries).filter (fun file => file.path = ErrorsFile.path)
      = [⟨ErrorsFile.path, ErrorsFile.content package spec.defaultMessage entries⟩] := by
  cases framework <;> rfl

/-- A successful generation has a proper package, proper entries and one error file. -/
theorem generate_eq_ok (h : generate spec entries = .ok files) :
    Go.isIdentifier (Go.packageName spec.packageName) = true ∧ Entry.AreRenderable entries
      ∧ files.filter (fun file => file.path = ErrorsFile.path)
        = [⟨ErrorsFile.path, errorsContent spec entries⟩] := by
  rcases exists_framework_of_generate h with ⟨framework, -, hpackage, hrenderable, rfl⟩
  exact ⟨hpackage, hrenderable, filter_files_eq framework _ spec entries⟩

/-- After a successful generation the error file can be read. -/
theorem read?_errorsContent (h : generate spec entries = .ok files) :
    ErrorsFile.read? (errorsContent spec entries) = some
      (ErrorsFile.reading (Go.packageName spec.packageName) spec.defaultMessage entries) := by
  rcases generate_eq_ok h with ⟨hpackage, hrenderable, -⟩
  exact ErrorsFile.read?_content hpackage hrenderable

/-- There is no other file under the path of the error file. -/
theorem eq_errorsContent_of_mem {content : Text} (h : generate spec entries = .ok files)
    (hmem : ⟨ErrorsFile.path, content⟩ ∈ files) : content = errorsContent spec entries := by
  rcases generate_eq_ok h with ⟨-, -, hfiles⟩
  have hfound : ⟨ErrorsFile.path, content⟩
      ∈ files.filter fun file => file.path = ErrorsFile.path :=
    List.mem_filter.2 ⟨hmem, decide_eq_true rfl⟩
  rw [hfiles, List.mem_singleton] at hfound
  exact congrArg File.content hfound

/-- The file of errors is read back to what it was generated from, and other packages with the same
file of errors agree in all that it says. -/
theorem generate_read_back (h : generate spec entries = .ok files) :
    ∃ content,
      files.filter (fun file => file.path = ErrorsFile.path) = [⟨ErrorsFile.path, content⟩]
      ∧ ErrorsFile.read? content = some
          { package := Go.packageName spec.packageName
            message := Go.stringLiteral spec.defaultMessage
            declarations := entries.map fun e : Entry =>
              ⟨e.identifier, e.code,
                if e.httpStatus = 0 then Go.stringLiteral spec.defaultMessage
                else Go.stringLiteral e.httpMessage,
                e.httpStatus⟩
            rows := entries.map fun e => (e.code, e.identifier) }
      ∧ (entries.map Entry.code).Nodup
      ∧ (entries.map Entry.identifier).Nodup
      ∧ ∀ (spec' : PackageSpec) (entries' : List Entry) (files' : List Generated.File),
          generate spec' entries' = .ok files' → ⟨ErrorsFile.path, content⟩ ∈ files' →
            Go.packageName spec.packageName = Go.packageName spec'.packageName
            ∧ spec.defaultMessage = spec'.defaultMessage
            ∧ entries.map ErrorsFile.kept = entries'.map ErrorsFile.kept := by
  rcases generate_eq_ok h with ⟨-, hrenderable, hfiles⟩
  have hread := read?_errorsContent h
  -- Internal entries are told by their status here and by `Entry.isInternal` in the generator.
  have hmessage (e : Entry) :
      Go.stringLiteral (ErrorsFile.clientMessage spec.defaultMessage e)
        = if e.httpStatus = 0 then Go.stringLiteral spec.defaultMessage
          else Go.stringLiteral e.httpMessage := by
    simp only [ErrorsFile.clientMessage, Entry.isInternal, decide_eq_true_eq]
    exact apply_ite Go.stringLiteral _ _ _
  refine ⟨_, hfiles, ?_, hrenderable.nodup_code, hrenderable.nodup_identifier, ?_⟩
  · simp only [← hmessage]
    exact hread
  · intro spec' entries' files' h' hmem
    have hread' := read?_errorsContent h'
    -- The other generation has this very content, so both readings are of one text.
    rw [← eq_errorsContent_of_mem h' hmem, hread] at hread'
    exact ErrorsFile.reading_injective (Option.some.inj hread')

/-- A message with a quote, a backslash and a line feed, and a comment that looks like source. -/
theorem exists_errorsFile_of_my_app :
    ∃ files content,
      generate ⟨"github.com/acme/my-app", [], "gozero", "busy"⟩
        [⟨10, "NOT_FOUND", [], 404, "no \"x\\\n"⟩, ⟨20, "DB_DOWN", "New(1, ", 0, []⟩] = .ok files
      ∧ ⟨ErrorsFile.path, content⟩ ∈ files
      ∧ ErrorsFile.read? content = some
          ⟨"myapp", "\"busy\"",
            [⟨"ErrNotFound", 10, "\"no \\\"x\\\\\\n\"", 404⟩, ⟨"ErrDbDown", 20, "\"busy\"", 0⟩],
            [(10, "ErrNotFound"), (20, "ErrDbDown")]⟩ := by
  obtain ⟨files, hfiles⟩ :
      ∃ files, generate ⟨"github.com/acme/my-app", [], "gozero", "busy"⟩
        [⟨10, "NOT_FOUND", [], 404, "no \"x\\\n"⟩, ⟨20, "DB_DOWN", "New(1, ", 0, []⟩] = .ok files :=
    ⟨_, rfl⟩
  rcases generate_read_back hfiles with ⟨content, hfilter, hread, -⟩
  have hmem : ⟨ErrorsFile.path, content⟩ ∈ files := by
    apply List.mem_of_mem_filter
    rw [hfilter]
    exact List.mem_singleton_self _
  exact ⟨files, content, hfiles, hmem, hread⟩

end ErrorCatalog
