import ErrorCatalog.Proofs.Binding.LineEntries
import ErrorCatalog.Proofs.Schema.Declared
import ErrorCatalog.Proofs.Text.Control
import Mathlib.Data.List.Nodup
/-!
# Tables written and read

A compiled binding that holds the entries of a schema, in its table from codes to names in any order
and with any spacing, gives the codes and names of that schema back in their order. The table from
names to codes adds nothing: in its lines a quote stands in front of every colon, so no line of it
has a table entry, not even one whose name ends in a digit.
-/

namespace ErrorCatalog

namespace Binding

open Text (isBlank isDigit wordLimit)

variable {gap name : Text}

/-! ## Lines of the tables -/

/-- A numeral is a minus sign or nothing, followed by the digits of the value. -/
theorem exists_sign (code : Int) :
    ∃ sign : Text, (∀ c ∈ sign, c = '-') ∧
      Text.ofInt code = sign ++ Text.ofNat code.natAbs := by
  cases code with
  | ofNat n => exact ⟨[], by simp, rfl⟩
  | negSucc n => exact ⟨['-'], by simp, rfl⟩

/-- A line of a name table holds its own entry and nothing else. -/
theorem lineEntries_renderLine (hgap : ∀ c ∈ gap, isBlank c = true) (hne : name ≠ [])
    (hquote : '"' ∉ name) (code : Int) :
    lineEntries (renderLine gap code name) = [(Text.ofNat code.natAbs, name)] := by
  rcases exists_sign code with ⟨sign, hsign, hcode⟩
  have hnumeral := Text.isNumeral_ofNat code.natAbs
  -- In front of the digits stand the tabs and the sign.
  have hfront : ∀ c ∈ "\t\t" ++ sign, isDigit c = false := by
    intro c hc
    rcases List.mem_append.1 hc with htab | hmem
    · have hc : c = '\t' := by simpa using htab
      rw [hc]
      rfl
    · rw [hsign c hmem]
      rfl
  have hpair : IsPair (Text.ofNat code.natAbs ++ ":" ++ gap ++ "\"" ++ name ++ "\"" ++ ",")
      (Text.ofNat code.natAbs) name "," := {
    digits_ne_nil := hnumeral.ne_nil
    digits_isDigit := fun c hc => Text.isDigit_of_isAsciiDigit (hnumeral.isDigit c hc)
    name_ne_nil := hne
    quote_not_mem := hquote
    spelling := ⟨gap, hgap, rfl⟩ }
  have hend : ("\"," : Text) = "\"" ++ "," := rfl
  calc lineEntries (renderLine gap code name)
      = lineEntries (("\t\t" ++ sign)
          ++ (Text.ofNat code.natAbs ++ ":" ++ gap ++ "\"" ++ name ++ "\"" ++ ",")) := by
        unfold renderLine
        simp only [hcode, hend, List.append_assoc]
    _ = lineEntries (Text.ofNat code.natAbs ++ ":" ++ gap ++ "\"" ++ name ++ "\"" ++ ",") :=
        lineEntries_append hfront
    _ = (Text.ofNat code.natAbs, name) :: lineEntries "," := lineEntries_of_isPair hpair
    _ = [(Text.ofNat code.natAbs, name)] := by
        rw [lineEntries_eq_nil (by decide)]

/-- In a line of a value table a quote stands before the only colon, so there is no entry. -/
theorem lineEntries_renderValueLine (hgap : ':' ∉ gap) (hname : ':' ∉ name) (code : Int) :
    lineEntries (renderValueLine gap code name) = [] := by
  have hfront : ':' ∉ "\t\t\"" ++ name ++ ['"'] := by
    have hindent : ':' ∉ ("\t\t\"" : Text) := by decide
    simp only [List.mem_append, hindent, hname, or_self, false_or]
    decide
  have hcode : ':' ∉ Text.ofInt code := by
    intro hmem
    rcases exists_sign code with ⟨sign, hsign, hcode⟩
    rw [hcode] at hmem
    rcases List.mem_append.1 hmem with hmem | hmem
    · cases hsign ':' hmem
    · cases (Text.isNumeral_ofNat code.natAbs).isDigit ':' hmem
  have hback : ':' ∉ gap ++ Text.ofInt code ++ "," := by
    simp only [List.mem_append, hgap, hcode, or_self, false_or]
    decide
  have hmiddle : ("\":" : Text) = ['"'] ++ [':'] := rfl
  have hline : renderValueLine gap code name
      = ("\t\t\"" ++ name ++ ['"']) ++ ':' :: (gap ++ Text.ofInt code ++ ",") := by
    unfold renderValueLine
    simp only [hmiddle, List.append_assoc, List.cons_append, List.nil_append]
  apply lineEntries_eq_nil
  rw [hline]
  refine List.isChain_append.2 ⟨isChain_keepsApart_of_not_mem hfront, ?_, ?_⟩
  · refine List.isChain_cons.2 ⟨?_, isChain_keepsApart_of_not_mem hback⟩
    intro d _ _
    rfl
  · -- What stands in front of the colon is the quote that ends the name.
    intro c hc d _ _
    rw [List.getLast?_concat] at hc
    cases hc
    rfl

/-- A line that is written from clean parts is clean. -/
theorem isClean_renderLine (hgap : Text.IsClean gap) (hname : Text.IsClean name) (code : Int) :
    Text.IsClean (renderLine gap code name) := by
  unfold renderLine
  simp only [Text.isClean_append, List.append_assoc]
  exact ⟨by decide, Text.isClean_ofInt code, by decide, hgap, by decide, hname, by decide⟩

/-- The same holds of a line with name and code the other way round. -/
theorem isClean_renderValueLine (hgap : Text.IsClean gap) (hname : Text.IsClean name)
    (code : Int) : Text.IsClean (renderValueLine gap code name) := by
  unfold renderValueLine
  simp only [Text.isClean_append, List.append_assoc]
  exact ⟨by decide, hname, by decide, hgap, Text.isClean_ofInt code, by decide⟩

/-! ## Tables -/

/-- A table can hold the entry: its name is made of word characters. -/
structure IsTabular (e : Entry) : Prop where
  name_ne_nil : e.name ≠ []
  name_isWord : ∀ c ∈ e.name, Go.isWordChar c = true

/-- A name in a table has none of the signs that tables are written with. -/
theorem IsTabular.not_mem {e : Entry} (h : IsTabular e) {c : Char}
    (hc : Go.isWordChar c = false) : c ∉ e.name := by
  intro hmem
  rw [h.name_isWord c hmem] at hc
  cases hc

/-- The gap behind a colon consists of spaces only. -/
theorem eq_space_of_mem_gap {row : Row} {c : Char} (h : c ∈ row.gap) : c = ' ' :=
  List.eq_of_mem_replicate h

/-- Spaces are no control characters. -/
theorem isClean_gap (row : Row) : Text.IsClean row.gap := by
  intro c hc
  rw [eq_space_of_mem_gap hc]
  exact .inl rfl

variable {names values rows : List Row} {line : Text}

/-- A line of a table is its first line, the line of a row or its last line. -/
theorem mem_tableLines {opening : Text} {write : Text → Int → Text → Text}
    (h : line ∈ tableLines opening write rows) :
    line = opening ∨ (∃ row ∈ rows, line = write row.gap row.entry.code row.entry.name)
      ∨ line = tableClosing := by
  rcases List.mem_append.1 h with hline | hclosing
  · rcases List.mem_cons.1 hline with hopening | hrow
    · exact .inl hopening
    · rcases List.mem_map.1 hrow with ⟨row, hmem, rfl⟩
      exact .inr (.inl ⟨row, hmem, rfl⟩)
  · exact .inr (.inr (List.mem_singleton.1 hclosing))

/-- All lines of a table from codes to names are clean. -/
theorem isClean_of_mem_nameTable (h : ∀ row ∈ rows, IsTabular row.entry)
    (hline : line ∈ nameTable rows) : Text.IsClean line := by
  rcases mem_tableLines hline with rfl | ⟨row, hrow, rfl⟩ | rfl
  · decide
  · have hname := Text.isClean_of_isWordChar (h row hrow).name_isWord
    exact isClean_renderLine (isClean_gap row) hname row.entry.code
  · decide

/-- All lines of a table from names to codes are clean. -/
theorem isClean_of_mem_valueTable (h : ∀ row ∈ rows, IsTabular row.entry)
    (hline : line ∈ valueTable rows) : Text.IsClean line := by
  rcases mem_tableLines hline with rfl | ⟨row, hrow, rfl⟩ | rfl
  · decide
  · have hname := Text.isClean_of_isWordChar (h row hrow).name_isWord
    exact isClean_renderValueLine (isClean_gap row) hname row.entry.code
  · decide

/-- The entries found in a table from codes to names are its rows, in order. -/
theorem flatMap_lineEntries_nameTable (h : ∀ row ∈ rows, IsTabular row.entry) :
    (nameTable rows).flatMap lineEntries
      = rows.map fun row => (Text.ofNat row.entry.code.natAbs, row.entry.name) := by
  have hopening : lineEntries nameTableOpening = [] := lineEntries_eq_nil (by decide)
  have hclosing : lineEntries tableClosing = [] := lineEntries_eq_nil (by decide)
  have hrows : rows.flatMap (fun row =>
      lineEntries (renderLine row.gap row.entry.code row.entry.name))
        = rows.map fun row => (Text.ofNat row.entry.code.natAbs, row.entry.name) := by
    rw [List.map_eq_flatMap]
    refine List.flatMap_congr ?_
    intro row hrow
    have hblank : ∀ c ∈ row.gap, isBlank c = true := by
      intro c hc
      rw [eq_space_of_mem_gap hc]
      rfl
    exact lineEntries_renderLine hblank (h row hrow).name_ne_nil ((h row hrow).not_mem rfl) _
  simp only [nameTable, tableLines, List.flatMap_append, List.flatMap_cons, List.flatMap_map,
    hopening, hrows, hclosing, List.flatMap_nil, List.append_nil, List.nil_append]

/-- In a table from names to codes no entry is found. -/
theorem flatMap_lineEntries_valueTable (h : ∀ row ∈ rows, IsTabular row.entry) :
    (valueTable rows).flatMap lineEntries = [] := by
  refine List.flatMap_eq_nil_iff.2 ?_
  intro line hline
  rcases mem_tableLines hline with rfl | ⟨row, hrow, rfl⟩ | rfl
  · exact lineEntries_eq_nil (by decide)
  · have hgap : ':' ∉ row.gap := by
      intro hcolon
      cases eq_space_of_mem_gap hcolon
    exact lineEntries_renderValueLine hgap ((h row hrow).not_mem rfl) row.entry.code
  · exact lineEntries_eq_nil (by decide)

/-! ## Bindings -/

/-- A name table declares its rows, as long as the absolute values of their codes fit a signed
word. -/
theorem declarations_nameTable (h : ∀ row ∈ names, IsTabular row.entry)
    (hcodes : ∀ row ∈ names, row.entry.code.natAbs < wordLimit) :
    declarations (Text.unlines (nameTable names))
      = names.map fun row => (row.entry.code.natAbs, row.entry.name) := by
  have hlines : Text.lines (Text.unlines (nameTable names)) = nameTable names :=
    Text.lines_unlines_of_isClean fun line => isClean_of_mem_nameTable h
  simp only [declarations, hlines, flatMap_lineEntries_nameTable h, List.filterMap_map]
  refine List.filterMap_eq_map_iff_forall_eq_some.2 ?_
  intro row hrow
  simp only [Function.comp_apply, Text.readWord?_ofNat (hcodes row hrow), Option.map_some]

/-- A value table declares nothing. -/
theorem declarations_valueTable (h : ∀ row ∈ values, IsTabular row.entry) :
    declarations (Text.unlines (valueTable values)) = [] := by
  have hlines : Text.lines (Text.unlines (valueTable values)) = valueTable values :=
    Text.lines_unlines_of_isClean fun line => isClean_of_mem_valueTable h
  simp only [declarations, hlines, flatMap_lineEntries_valueTable h, List.filterMap_nil]

/-- The second table adds no declaration to those of the first. -/
theorem declarations_render (hvalues : ∀ row ∈ values, IsTabular row.entry) :
    declarations (render names values) = declarations (Text.unlines (nameTable names)) := by
  have hrender : render names values
      = Text.unlines (nameTable names) ++ Text.unlines (valueTable values) :=
    Text.unlines_append _ _
  rw [hrender, declarations_append (Text.isWhole_unlines _), declarations_valueTable hvalues,
    List.append_nil]

/-- Declarations of distinct codes are one entry each. -/
theorem perm_entries {binding : Text} (h : ((declarations binding).map Prod.fst).Nodup) :
    (entries binding).Perm
      ((declarations binding).map fun (code, name) => .internal code name []) :=
  (SortedTable.perm_ofPairs h).map fun pair : Nat × Text => Entry.internal pair.1 pair.2 []

/-- Tables whose rows have distinct codes are read as one entry for each row of the first. -/
theorem entries_render_perm (hnames : ∀ row ∈ names, IsTabular row.entry)
    (hvalues : ∀ row ∈ values, IsTabular row.entry)
    (hcodes : ∀ row ∈ names, row.entry.code.natAbs < wordLimit)
    (hdistinct : (names.map fun row => row.entry.code.natAbs).Nodup) :
    (entries (render names values)).Perm
      (names.map fun row => .internal row.entry.code.natAbs row.entry.name []) := by
  have hdeclarations := (declarations_render hvalues).trans (declarations_nameTable hnames hcodes)
  have hkeys : ((declarations (render names values)).map Prod.fst).Nodup := by
    rw [hdeclarations, List.map_map]
    exact hdistinct
  have hentries := perm_entries hkeys
  rw [hdeclarations, List.map_map] at hentries
  exact hentries

/-! ## The entries of a schema in tables -/

/-- Codes that ascend and differ ascend strictly. -/
theorem ascending_of_nodup_code {schema : Text}
    (h : ((Schema.entries schema).map Entry.code).Nodup) :
    (Schema.entries schema).Pairwise fun e other => e.code < other.code := by
  have hle := Schema.pairwise_entries schema
  have hne : (Schema.entries schema).Pairwise fun e other => e.code ≠ other.code :=
    List.pairwise_map.1 h
  refine (hle.and hne).imp ?_
  rintro e other ⟨hle, hne⟩
  omega

/-- Whatever a schema declares can stand in a table. -/
theorem isTabular_of_isDeclared {e : Entry} (h : Schema.IsDeclared e) : IsTabular e :=
  ⟨h.name_ne_nil, h.name_isWord⟩

/-- The codes of a schema are never negative, so their absolute values are the codes themselves. -/
theorem natAbs_code_of_isDeclared {e : Entry} (h : Schema.IsDeclared e) :
    (e.code.natAbs : Int) = e.code ∧ e.code.natAbs < wordLimit := by
  rcases h.code_eq with ⟨code, hlt, hcode⟩
  rw [hcode]
  exact ⟨rfl, hlt⟩

/-- Rows that hold the entries of a schema in any order hold nothing else. -/
theorem isDeclared_of_perm {schema : Text}
    (h : (rows.map Row.entry).Perm (Schema.entries schema)) :
    ∀ row ∈ rows, Schema.IsDeclared row.entry := by
  intro row hrow
  exact Schema.isDeclared_of_mem_entries (h.subset (List.mem_map_of_mem hrow))

/-- Declared codes differ as natural numbers if they differ as integers. -/
theorem nodup_natAbs_code (h : ∀ row ∈ rows, Schema.IsDeclared row.entry)
    (hcodes : ((rows.map Row.entry).map Entry.code).Nodup) :
    (rows.map fun row => row.entry.code.natAbs).Nodup := by
  have hcast : (rows.map fun row => (row.entry.code.natAbs : Int))
      = (rows.map Row.entry).map Entry.code := by
    rw [List.map_map]
    exact List.map_congr_left fun row hrow => (natAbs_code_of_isDeclared (h row hrow)).1
  apply List.Nodup.of_map (fun code : Nat => (code : Int))
  rwa [List.map_map, Function.comp_def, hcast]

/-- For entries of a schema it makes no difference whether absolute values or codes are read
back. -/
theorem map_internal_natAbs_code (h : ∀ row ∈ rows, Schema.IsDeclared row.entry) :
    (rows.map fun row => Entry.internal row.entry.code.natAbs row.entry.name [])
      = (rows.map Row.entry).map fun e => .internal e.code e.name [] := by
  rw [List.map_map]
  apply List.map_congr_left
  intro row hrow
  simp only [Function.comp_apply, (natAbs_code_of_isDeclared (h row hrow)).1]

/-- Two lists with strictly ascending codes that have the same entries are equal. -/
theorem eq_of_perm_of_ascending {left right : List Entry} (h : left.Perm right)
    (hleft : left.Pairwise fun e other => e.code < other.code)
    (hright : right.Pairwise fun e other => e.code < other.code) : left = right := by
  refine h.eq_of_pairwise ?_ hleft hright
  intro e other _ _ hlt hgt
  omega

/-- The entries of a schema without two of one code, written into both tables of a compiled binding
in any order and with any number of spaces, are read back with their codes and names in the order
of the schema, each as an internal entry with nothing else to say. The second table counts for
nothing: alone it declares no code, and it adds none to those of the first. -/
theorem entries_render_of_schema (schema : Text) (names values : List Row)
    (hcodes : ((Schema.entries schema).map Entry.code).Nodup)
    (hnames : (names.map Row.entry).Perm (Schema.entries schema))
    (hvalues : (values.map Row.entry).Perm (Schema.entries schema)) :
    entries (render names values)
        = (Schema.entries schema).map (fun e => .internal e.code e.name [])
      ∧ (entries (render names values)).map (fun e => (e.code, e.name))
        = (Schema.entries schema).map (fun e => (e.code, e.name))
      ∧ (∀ e ∈ entries (render names values), e.isInternal = true)
      ∧ declarations (Text.unlines (valueTable values)) = []
      ∧ declarations (render names values) = declarations (Text.unlines (nameTable names)) := by
  have hdeclared := isDeclared_of_perm hnames
  have htabular : ∀ row ∈ names, IsTabular row.entry :=
    fun row hrow => isTabular_of_isDeclared (hdeclared row hrow)
  have hothers : ∀ row ∈ values, IsTabular row.entry :=
    fun row hrow => isTabular_of_isDeclared (isDeclared_of_perm hvalues row hrow)
  -- The tables declare what the schema does, up to order; sorting then makes the lists equal.
  have hperm := entries_render_perm htabular hothers
    (fun row hrow => (natAbs_code_of_isDeclared (hdeclared row hrow)).2)
    (nodup_natAbs_code hdeclared ((hnames.map Entry.code).nodup_iff.2 hcodes))
  rw [map_internal_natAbs_code hdeclared] at hperm
  have hentries : entries (render names values)
      = (Schema.entries schema).map fun e => .internal e.code e.name [] := by
    apply eq_of_perm_of_ascending (hperm.trans (hnames.map _)) (ascending_entries _)
    exact List.pairwise_map.2 (ascending_of_nodup_code hcodes)
  refine ⟨hentries, ?_, ?_, declarations_valueTable hothers, declarations_render hothers⟩
  · rw [hentries, List.map_map]
    rfl
  · rw [hentries]
    intro e he
    rcases List.mem_map.1 he with ⟨declared, -, rfl⟩
    rfl

/-- Names that end in digits or are nothing else, and the greatest code. -/
theorem exists_entries_render_of_digits :
    ∃ (schema : Text) (names values : List Row),
      schema = "enum ErrorCode \x7b\n A1 = 9223372036854775807; // down\n 12 = 7; // no @http=404\n"
      ∧ ((Schema.entries schema).map Entry.code).Nodup
      ∧ (names.map Row.entry).Perm (Schema.entries schema)
      ∧ (values.map Row.entry).Perm (Schema.entries schema)
      ∧ entries (render names values)
        = [.internal 7 "12" [], .internal 9223372036854775807 "A1" []] := by
  let schema : Text :=
    "enum ErrorCode \x7b\n A1 = 9223372036854775807; // down\n 12 = 7; // no @http=404\n"
  let names : List Row :=
    [⟨.internal 9223372036854775807 "A1" "down", 0⟩, ⟨.withStatus 7 "12" 404 "no", 5⟩]
  have hcodes : ((Schema.entries schema).map Entry.code).Nodup := by decide +kernel
  have hnames : (names.map Row.entry).Perm (Schema.entries schema) := by decide +kernel
  have hvalues : (names.reverse.map Row.entry).Perm (Schema.entries schema) := by decide +kernel
  have hentries := (entries_render_of_schema schema names names.reverse hcodes hnames hvalues).1
  exact ⟨schema, names, names.reverse, rfl, hcodes, hnames, hvalues,
    hentries.trans (by decide +kernel)⟩

end Binding

end ErrorCatalog
