import ErrorCatalog.Proofs.Schema.Block
import ErrorCatalog.Proofs.Schema.Declared
import ErrorCatalog.Proofs.Text.Control
/-!
# Rendered schemas

Reading undoes rendering on the entries that schemas declare. The rendered line of such an entry is
an entry line made up of proper parts, neither its text nor its end is taken for a line end, and it
does not close the block.
-/

namespace ErrorCatalog

namespace Schema

open Text (IsTrimmed Stops isBlank isSpace trimBlank wordLimit)

variable {e : Entry}

/-! ## Rendered comments -/

/-- An internal entry is written with its comment as it is. -/
theorem renderComment_of_internal (h : e.httpStatus = 0) : renderComment e = e.comment := by
  simp [renderComment, Entry.isInternal, h]

/-- A public entry is written with its message and its status behind it. -/
theorem renderComment_of_public {status : Nat} (h : e.httpStatus = status) (hpos : 0 < status) :
    renderComment e = e.httpMessage ++ (" " ++ (statusMarker ++ Text.ofNat status)) := by
  have hne : ¬ status = 0 := by omega
  simp [renderComment, Entry.isInternal, h, hne, Text.ofInt_natCast]

/-- A rendered annotation is read as one. -/
theorem annotation?_render {message : Text} {status : Nat} (hmessage : IsRemark message)
    (hne : message ≠ []) (hpos : 0 < status) (hlt : status < wordLimit) :
    annotation? (message ++ (" " ++ (statusMarker ++ Text.ofNat status)))
      = some (message, status) := by
  -- The parts that a public entry is rendered from.
  let a : AnnotationParts := ⟨message, " ", Text.ofNat status, []⟩
  have hvalue : Text.numeralValue a.digits = status := Text.numeralValue_ofNat status
  have hproper : a.IsProper := {
    text_ne_nil := hne
    text_stops := Text.stops_isSpace_of_stops_isBlank hmessage.isTrimmed.back
    gap_isSpaces := by simp [a, Text.IsSpaces, isSpace]
    gap_ne_nil := by simp [a]
    digits_isNumeral := Text.isNumeral_ofNat status
    status_pos := by rwa [hvalue]
    status_lt := by rwa [hvalue]
    tail_isSpaces := Text.isSpaces_nil }
  refine annotation?_eq_some_iff.2 ⟨a, hproper, ?_, ?_, hvalue⟩
  · simp [AnnotationParts.comment, a]
  · exact Text.trim_eq_self hmessage.isTrimmed

/-- The annotation ends in a digit, so the comment stays trimmed. -/
theorem isRemark_render {message : Text} {status : Nat} (hmessage : IsRemark message)
    (hne : message ≠ []) :
    IsRemark (message ++ (" " ++ (statusMarker ++ Text.ofNat status))) := by
  have hnumeral := Text.isNumeral_ofNat status
  refine ⟨⟨Text.stops_append hmessage.isTrimmed.front hne, ?_⟩, ?_⟩
  -- Only the front and the end matter for trimming; a digit stands at the end.
  · have hend : Stops isBlank (Text.ofNat status).reverse := by
      apply Text.stops_of_forall
      intro c hc
      exact Go.isBlank_of_isDigit (hnumeral.isDigit c (List.mem_reverse.1 hc))
    simp only [← List.append_assoc]
    exact Text.stops_reverse_append hend hnumeral.ne_nil
  · have hdigits : '\n' ∉ Text.ofNat status :=
      (Text.isClean_ofNat status).not_mem rfl (by decide)
    have hmarker : '\n' ∉ statusMarker := by decide
    simp [hmessage.not_mem, hmarker, hdigits]

/-- The rendered comment of a declared entry is a trimmed text within one line. -/
theorem isRemark_renderComment (h : IsDeclared e) : IsRemark (renderComment e) := by
  rcases h.kind with hinternal | hpublic
  · rw [renderComment_of_internal hinternal.status_eq]
    exact hinternal.comment_isRemark
  · rcases hpublic.status_eq with ⟨status, hpos, -, hstatus⟩
    rw [renderComment_of_public hstatus hpos]
    exact isRemark_render hpublic.message_isRemark hpublic.message_ne_nil

/-- The rendered comment of a declared entry declares its kind and text. -/
theorem classify_renderComment (h : IsDeclared e) {code : Nat} (hcode : e.code = code) :
    classify code e.name (renderComment e) = e := by
  rcases h.kind with hinternal | hpublic
  · rw [renderComment_of_internal hinternal.status_eq, classify, hinternal.not_annotated,
      Entry.internal, ← hcode, ← hinternal.status_eq, ← hinternal.message_eq]
  · rcases hpublic.status_eq with ⟨status, hpos, hlt, hstatus⟩
    have hread := annotation?_render hpublic.message_isRemark hpublic.message_ne_nil hpos hlt
    have hpositive : ¬ ((status : Int) ≤ 0) := by omega
    rw [renderComment_of_public hstatus hpos, classify, hread]
    simp only [Entry.withStatus, if_neg hpositive]
    rw [← hcode, ← hpublic.comment_eq, ← hstatus]

/-! ## Rendered lines -/

/-- The rendered line of a declared entry declares this entry. -/
theorem readLine?_renderEntry (h : IsDeclared e) : readLine? (renderEntry e) = some e := by
  rcases h.code_eq with ⟨code, hlt, hcode⟩
  -- The parts that the line is put together from.
  let p : LineParts := {
    indent := []
    name := e.name
    beforeEquals := " "
    afterEquals := " "
    digits := Text.ofNat code
    beforeSemicolon := []
    afterSemicolon := " "
    remark := "//" ++ (" " ++ renderComment e) }
  have hvalue : Text.numeralValue p.digits = code := Text.numeralValue_ofNat code
  have hspace : Text.IsSpaces (" " : Text) := by simp [Text.IsSpaces, isSpace]
  have hproper : p.IsProper := {
    indent_isSpaces := Text.isSpaces_nil
    name_ne_nil := h.name_ne_nil
    name_isWord := h.name_isWord
    beforeEquals_isSpaces := hspace
    afterEquals_isSpaces := hspace
    digits_isNumeral := Text.isNumeral_ofNat code
    code_lt := by rwa [hvalue]
    beforeSemicolon_isSpaces := Text.isSpaces_nil
    afterSemicolon_isSpaces := hspace
    remark_eq := .inr ⟨" " ++ renderComment e, rfl⟩ }
  have hcomment : p.comment = renderComment e := by
    have hblank : ∀ c ∈ (" " : Text), isBlank c = true := by
      intro c hc
      rcases List.mem_singleton.1 hc with rfl
      rfl
    calc p.comment = trimBlank (" " ++ renderComment e) := rfl
      _ = trimBlank (renderComment e) := Text.trim_append_of_all hblank
      _ = renderComment e := Text.trim_eq_self (isRemark_renderComment h).isTrimmed
  refine readLine?_eq_some_iff.2 ⟨p, hproper, ?_, ?_⟩
  · simp [LineParts.line, p, renderEntry, hcode, Text.ofInt_natCast]
  · rw [LineParts.entry, hvalue, hcomment]
    exact classify_renderComment h hcode

/-- The rendered line of a declared entry stays one line. -/
theorem renderEntry_isLine (h : IsDeclared e) :
    '\n' ∉ renderEntry e ∧ (renderEntry e).getLast? ≠ some '\r' := by
  have hremark := isRemark_renderComment h
  rcases h.code_eq with ⟨code, -, hcode⟩
  constructor
  · have hname : '\n' ∉ e.name :=
      (Text.isClean_of_isWordChar h.name_isWord).not_mem rfl (by decide)
    have hdigits : '\n' ∉ Text.ofNat code :=
      (Text.isClean_ofNat code).not_mem rfl (by decide)
    simp [renderEntry, hcode, Text.ofInt_natCast, hname, hdigits, hremark.not_mem]
  · -- The line ends as the comment does, and a trimmed comment does not end with a blank.
    intro hlast
    rw [renderEntry, List.getLast?_append] at hlast
    cases hcase : (renderComment e).getLast? with
    | none =>
      -- Without a comment the line ends with the space behind the slashes.
      rw [hcase, Option.none_or, List.getLast?_append] at hlast
      cases hlast
    | some c =>
      rw [hcase] at hlast
      cases hlast
      have hblank := hremark.isTrimmed.back '\r' (by simpa using hcase)
      cases hblank

/-- The rendered line of a declared entry does not close the block. -/
theorem not_closes_renderEntry (h : IsDeclared e) : ¬ Closes (renderEntry e) := by
  intro hcloses
  -- The first character is one of the name, so it is neither a blank nor a brace.
  have hbrace := (closesBlock_iff _).2 hcloses
  rcases List.exists_cons_of_ne_nil h.name_ne_nil with ⟨c, name, hname⟩
  have hword : Go.isWordChar c = true := h.name_isWord c (by simp [hname])
  have hspace := Go.isSpace_of_isWordChar hword
  have hne := Go.ne_of_isWordChar (d := '\x7d') hword rfl
  simp [closesBlock, renderEntry, hname, hspace, hne] at hbrace

/-! ## Rendered schemas -/

/-- No line is broken in two: each entry has a line of its own. -/
theorem lines_render {declared : List Entry} (h : ∀ e ∈ declared, IsDeclared e) :
    Text.lines (render declared)
      = openingLine :: (declared.map renderEntry ++ [closingLine]) := by
  apply Text.lines_unlines
  intro line hline
  rcases List.mem_cons.1 hline with rfl | hline
  · decide
  · rcases List.mem_append.1 hline with hentry | hclosing
    · rcases List.mem_map.1 hentry with ⟨e, he, rfl⟩
      exact renderEntry_isLine (h e he)
    · rw [List.mem_singleton.1 hclosing]
      decide

/-- All entries stand inside the block. -/
theorem isCut_render {declared : List Entry} (h : ∀ e ∈ declared, IsDeclared e) :
    IsCut (Text.lines (render declared)) [] openingLine (declared.map renderEntry)
      [closingLine] where
  all_eq := lines_render h
  before_not_opens := by simp
  opening_opens := (opensBlock_iff _).1 rfl
  block_not_closes := by
    intro line hline
    rcases List.mem_map.1 hline with ⟨e, he, rfl⟩
    exact not_closes_renderEntry (h e he)
  behind_closes := by
    intro line hline
    cases hline
    exact (closesBlock_iff _).1 rfl

/-- Each line is read as the entry that it was written for. -/
theorem filterMap_readLine?_render {declared : List Entry} (h : ∀ e ∈ declared, IsDeclared e) :
    (declared.map renderEntry).filterMap readLine? = declared := by
  induction declared with
  | nil => rfl
  | cons e declared ih =>
    rcases List.forall_mem_cons.1 h with ⟨he, hrest⟩
    rw [List.map_cons, List.filterMap_cons_some (readLine?_renderEntry he), ih hrest]

/-- Reading a rendered list of declared entries gives the list back, sorted. -/
theorem entries_render {declared : List Entry} (h : ∀ e ∈ declared, IsDeclared e) :
    entries (render declared) = Entry.sortByCode declared := by
  rw [entries_eq_sortByCode, blockLines_of_isCut (isCut_render h), filterMap_readLine?_render h]

/-- Rendering any entries that schemas declare and reading the result sorts them stably; rendering
the entries of one schema and reading them gives the same entries. -/
theorem entries_render_of_mem_entries :
    (∀ declared : List Entry, (∀ e ∈ declared, ∃ schema, e ∈ entries schema) →
      Entry.IsStableSort declared (entries (render declared)))
    ∧ ∀ schema : Text, entries (render (entries schema)) = entries schema := by
  constructor
  · intro declared hdeclared
    have h : ∀ e ∈ declared, IsDeclared e := by
      intro e he
      rcases hdeclared e he with ⟨schema, hschema⟩
      exact isDeclared_of_mem_entries hschema
    rw [entries_render h]
    exact Entry.isStableSort_sortByCode declared
  · -- The entries of a schema are in order already, so sorting them again changes nothing.
    intro schema
    rw [entries_render fun e he => isDeclared_of_mem_entries he]
    exact Entry.sortByCode_of_ascending (pairwise_entries schema)

/-- Entries of both kinds, two of them with one code: rendered in another order than the schema has
them and read again, those two keep the order in which they were rendered. -/
theorem exists_entries_render_of_twins :
    ∃ (schema : Text) (declared : List Entry),
      schema = "enum ErrorCode \x7b\n B = 7; // no @http=404\n A = 3; // down\n C = 7; // gone\n"
      ∧ declared = [.internal 7 "C" "gone", .withStatus 7 "B" 404 "no", .internal 3 "A" "down"]
      ∧ (∀ e ∈ declared, e ∈ entries schema)
      ∧ Entry.IsStableSort declared (entries (render declared))
      ∧ entries (render declared)
        = [.internal 3 "A" "down", .internal 7 "C" "gone", .withStatus 7 "B" 404 "no"]
      ∧ entries (render (entries schema))
        = [.internal 3 "A" "down", .withStatus 7 "B" 404 "no", .internal 7 "C" "gone"] := by
  let schema : Text :=
    "enum ErrorCode \x7b\n B = 7; // no @http=404\n A = 3; // down\n C = 7; // gone\n"
  let declared : List Entry :=
    [.internal 7 "C" "gone", .withStatus 7 "B" 404 "no", .internal 3 "A" "down"]
  have hdeclared : ∀ e ∈ declared, e ∈ entries schema := by decide +kernel
  have hsort := entries_render_of_mem_entries.1 declared fun e he => ⟨schema, hdeclared e he⟩
  have hagain := entries_render_of_mem_entries.2 schema
  exact ⟨schema, declared, rfl, rfl, hdeclared, hsort, by decide +kernel,
    hagain.trans (by decide +kernel)⟩

end Schema

end ErrorCatalog
