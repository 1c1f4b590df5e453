import ErrorCatalog.Proofs.Generated.Acceptance
import ErrorCatalog.Proofs.Generated.CleanLines
import Mathlib.Data.List.Forall2
/-!
# Internal descriptions stay inside

Two lists of entries look alike to clients when they differ in comments and in the messages of
internal entries only. What is generated from them differs in the notes of the file of errors and
nowhere else: the check looks at codes and names, the declarations and the table use nothing that
may differ, and a note stays on its line whatever the comment is.
-/

namespace ErrorCatalog

/-! ## Entries that look alike -/

/-- Clients cannot tell the entries apart. -/
structure Entry.LooksLike (e other : Entry) : Prop where
  code_eq : e.code = other.code
  name_eq : e.name = other.name
  httpStatus_eq : e.httpStatus = other.httpStatus
  httpMessage_eq : e.httpStatus ≠ 0 → e.httpMessage = other.httpMessage

namespace Entry.LooksLike

variable {e other : Entry} {entries others : List Entry}

/-- Look-alikes have the same name and code. -/
theorem label_eq (h : LooksLike e other) : e.label = other.label := by
  simp [label, h.code_eq, h.name_eq]

theorem identifier_eq (h : LooksLike e other) : e.identifier = other.identifier := by
  unfold identifier
  rw [h.name_eq]

/-- Lists of look-alikes have the same first fault, as the check reads labels only. -/
theorem firstFault?_eq (h : List.Forall₂ LooksLike entries others) :
    firstFault? entries = firstFault? others := by
  have hlabels : entries.map label = others.map label := by
    rw [← List.forall₂_eq_eq_eq, List.forall₂_map_left_iff, List.forall₂_map_right_iff]
    exact h.imp fun _ _ => label_eq
  calc
    firstFault? entries = firstFault? (entries.map label) := (firstFault?_map_label entries).symm
    _ = firstFault? (others.map label) := by rw [hlabels]
    _ = firstFault? others := firstFault?_map_label others

end Entry.LooksLike

namespace Generated

/-! ## Lines and files that clients cannot tell apart -/

def isNote (line : Text) : Bool :=
  (Text.after? "\t//" line).isSome

def SameButNotes (line other : Text) : Prop :=
  line = other ∨ isNote line = true ∧ isNote other = true

/-- The files have one place and, outside the file of errors, one content; line by line they are
the same but for notes. -/
structure SameForClients (file other : File) : Prop where
  path_eq : file.path = other.path
  content_eq : file.path ≠ ErrorsFile.path → file.content = other.content
  sameButNotes :
    List.Forall₂ SameButNotes (Text.pieces '\n' file.content) (Text.pieces '\n' other.content)

theorem forall₂_sameButNotes_refl (lines : List Text) : List.Forall₂ SameButNotes lines lines :=
  List.forall₂_same.2 fun _ _ => .inl rfl

theorem sameForClients_refl (file : File) : SameForClients file file :=
  ⟨rfl, fun _ => rfl, forall₂_sameButNotes_refl _⟩

namespace ErrorsFile

variable {package defaultMessage : Text} {e other : Entry} {entries others : List Entry}

theorem isNote_noteLine (e : Entry) : isNote (noteLine e) = true := by
  rcases exists_noteLine_eq e with ⟨text, heq, -⟩
  rw [heq]
  rfl

/-- What a client is told of an internal entry is the default message. -/
theorem clientMessage_eq (h : e.LooksLike other) :
    clientMessage defaultMessage e = clientMessage defaultMessage other := by
  unfold clientMessage Entry.isInternal
  rw [← h.httpStatus_eq]
  split
  · rfl
  · next hpublic => exact h.httpMessage_eq (by simpa using hpublic)

/-- Look-alikes are declared by the same line. -/
theorem declarationLine_eq (h : e.LooksLike other) :
    declarationLine defaultMessage e = declarationLine defaultMessage other := by
  unfold declarationLine
  rw [h.identifier_eq, h.code_eq, h.httpStatus_eq, clientMessage_eq h]

theorem tableLine_eq (h : e.LooksLike other) : tableLine e = tableLine other := by
  unfold tableLine
  rw [h.identifier_eq, h.code_eq]

/-- The note in front of a declaration is the one line that may differ. -/
theorem sameButNotes_entryLines (defaultMessage : Text)
    (h : List.Forall₂ Entry.LooksLike entries others) :
    List.Forall₂ SameButNotes (entryLines defaultMessage entries)
      (entryLines defaultMessage others) := by
  have hvalues : List.Forall₂ SameButNotes
      (entries.flatMap fun e => [noteLine e, declarationLine defaultMessage e])
      (others.flatMap fun e => [noteLine e, declarationLine defaultMessage e]) := by
    -- Each entry has two lines: a note, which may differ, and a declaration, which does not.
    refine List.rel_flatMap h fun e other hlike => ?_
    exact .cons (.inr ⟨isNote_noteLine e, isNote_noteLine other⟩)
      (.cons (.inl (declarationLine_eq hlike)) .nil)
  have hrows : List.Forall₂ SameButNotes (entries.map tableLine) (others.map tableLine) :=
    List.rel_map (fun _ _ hlike => .inl (tableLine_eq hlike)) h
  have hfixed := forall₂_sameButNotes_refl
  exact List.rel_append (List.rel_append (List.rel_append (.cons (.inl rfl) hvalues) (hfixed _))
    hrows) (hfixed _)

/-- Two error files of look-alike lists differ in their notes alone. -/
theorem sameButNotes_lines (h : List.Forall₂ Entry.LooksLike entries others) :
    List.Forall₂ SameButNotes (lines package defaultMessage entries)
      (lines package defaultMessage others) := by
  have hfixed := forall₂_sameButNotes_refl
  cases h with
  | nil => exact hfixed _
  | cons hfirst hrest =>
    have hvalues := sameButNotes_entryLines defaultMessage (.cons hfirst hrest)
    exact List.rel_append (List.rel_append (hfixed _) hvalues) (hfixed _)

/-- No comment leaves its line, so the lines correspond also when they are read. -/
theorem sameForClients_content (hpackage : Go.isIdentifier package = true)
    (hentries : Entry.AreRenderable entries) (hothers : Entry.AreRenderable others)
    (h : List.Forall₂ Entry.LooksLike entries others) :
    SameForClients ⟨path, content package defaultMessage entries⟩
      ⟨path, content package defaultMessage others⟩ := by
  have hpieces {entries : List Entry} (hrenderable : Entry.AreRenderable entries) :
      Text.pieces '\n' (content package defaultMessage entries)
        = lines package defaultMessage entries ++ [[]] :=
    Text.pieces_unlines fun line hline =>
      (isClean_lines hpackage hrenderable line hline).not_mem rfl (by decide)
  refine ⟨rfl, fun hother => absurd rfl hother, ?_⟩
  rw [hpieces hentries, hpieces hothers]
  exact List.rel_append (sameButNotes_lines h) (forall₂_sameButNotes_refl [[]])

end ErrorsFile

end Generated

/-! ## Generated packages -/

open Generated

variable {spec : PackageSpec} {entries others : List Entry}

/-- Lists of look-alikes are accepted or refused alike. -/
theorem PackageSpec.accept_eq (h : List.Forall₂ Entry.LooksLike entries others) :
    spec.accept entries = spec.accept others := by
  unfold accept
  rw [Entry.LooksLike.firstFault?_eq h]

/-- Under every framework the files of two look-alike lists are the same for clients. -/
theorem Framework.sameForClients_files (framework : Framework) (spec : PackageSpec)
    {package : Text} (hpackage : Go.isIdentifier package = true)
    (hentries : Entry.AreRenderable entries) (hothers : Entry.AreRenderable others)
    (h : List.Forall₂ Entry.LooksLike entries others) :
    List.Forall₂ SameForClients (framework.files package spec entries)
      (framework.files package spec others) :=
  -- Entries occur in the second file only.
  .cons (sameForClients_refl _)
    (.cons (ErrorsFile.sameForClients_content hpackage hentries hothers h)
      (List.forall₂_same.2 fun file _ => sameForClients_refl file))

/-- Entries that look alike to clients fail alike, or give packages that are the same but for notes
in the file of errors. -/
theorem generate_confidential (spec : PackageSpec)
    (h : List.Forall₂ Entry.LooksLike entries others) :
    (∃ failure, generate spec entries = .error failure ∧ generate spec others = .error failure)
      ∨ ∃ files files', generate spec entries = .ok files ∧ generate spec others = .ok files'
        ∧ List.Forall₂ SameForClients files files' := by
  unfold generate
  cases Registry.builtin.resolve spec.target with
  | error failure => exact .inl ⟨failure, rfl, rfl⟩
  | ok framework =>
    simp only [Framework.generate_eq_map_files]
    -- Acceptance does not look at what may differ, so both lists go the same way.
    have hothers : spec.accept others = spec.accept entries := (PackageSpec.accept_eq h).symm
    cases haccept : spec.accept entries with
    | error failure =>
      rw [haccept] at hothers
      simp only [hothers]
      exact .inl ⟨failure, rfl, rfl⟩
    | ok package =>
      rw [haccept] at hothers
      rcases PackageSpec.accept_eq_ok_iff.1 haccept with ⟨-, hpackage, -, hentriesFault⟩
      rcases PackageSpec.accept_eq_ok_iff.1 hothers with ⟨-, -, -, hothersFault⟩
      have hfiles := framework.sameForClients_files spec hpackage
        (Entry.firstFault?_eq_none_iff.1 hentriesFault)
        (Entry.firstFault?_eq_none_iff.1 hothersFault) h
      simp only [hothers]
      exact .inr ⟨_, _, rfl, rfl, hfiles⟩

/-- A comment that tries to close the group of values and go on with source. -/
theorem exists_sameForClients_of_secret :
    ∃ files files',
      generate ⟨"acme/my-app", [], "goframe", "busy"⟩
        [⟨1, "DB_DOWN", "pool\n)\nvar Secret = \"x\"", 0, "old"⟩,
          ⟨2, "NOT_FOUND", "first", 404, "no\nsuch"⟩] = .ok files
      ∧ generate ⟨"acme/my-app", [], "goframe", "busy"⟩
        [⟨1, "DB_DOWN", [], 0, "new"⟩, ⟨2, "NOT_FOUND", [], 404, "no\nsuch"⟩] = .ok files'
      ∧ List.Forall₂ SameForClients files files' := by
  have hlike : List.Forall₂ Entry.LooksLike
      [⟨1, "DB_DOWN", "pool\n)\nvar Secret = \"x\"", 0, "old"⟩,
        ⟨2, "NOT_FOUND", "first", 404, "no\nsuch"⟩]
      [⟨1, "DB_DOWN", [], 0, "new"⟩, ⟨2, "NOT_FOUND", [], 404, "no\nsuch"⟩] :=
    .cons ⟨rfl, rfl, rfl, nofun⟩ (.cons ⟨rfl, rfl, rfl, fun _ => rfl⟩ .nil)
  rcases generate_confidential ⟨"acme/my-app", [], "goframe", "busy"⟩ hlike with
    ⟨failure, hfailure, -⟩ | ⟨files, files', hfiles, hfiles', hsame⟩
  -- The first list is accepted, so this case does not occur.
  · cases hfailure
  · exact ⟨files, files', hfiles, hfiles', hsame⟩

end ErrorCatalog
