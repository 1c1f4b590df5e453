import ErrorCatalog.Proofs.Go.Identifier
import ErrorCatalog.Proofs.Text.Numeral
import ErrorCatalog.Proofs.Text.Scan
import ErrorCatalog.Schema.EntryLine
/-!
# The grammar of entry lines

What `Schema.readLine?` and `Schema.annotation?` accept, as decompositions of a line and of a
comment. `LineParts` are the parts of an entry line and `AnnotationParts` those of an annotated
comment; each comes with the conditions that make the parts proper. The scanners succeed exactly on
what proper parts make up, although they take every run as long as they can and never go back.
-/

namespace ErrorCatalog

namespace Schema

open Text (IsNumeral IsSpaces Stops isSpace numeralValue takeEnd trimBlank trimEnd wordLimit)

/-! ## Annotated comments -/

/-- The parts of an annotated comment, in order, the marker left out. -/
structure AnnotationParts where
  text : Text
  gap : Text
  digits : Text
  tail : Text

def AnnotationParts.comment (a : AnnotationParts) : Text :=
  a.text ++ a.gap ++ statusMarker ++ a.digits ++ a.tail

/-- Some text that does not end in an ASCII blank, at least one ASCII blank, a numeral of a value
that is a status, and ASCII blanks at the end. -/
structure AnnotationParts.IsProper (a : AnnotationParts) : Prop where
  text_ne_nil : a.text ≠ []
  text_stops : Stops isSpace a.text.reverse
  gap_isSpaces : IsSpaces a.gap
  gap_ne_nil : a.gap ≠ []
  digits_isNumeral : IsNumeral a.digits
  status_pos : 0 < numeralValue a.digits
  status_lt : numeralValue a.digits < wordLimit
  tail_isSpaces : IsSpaces a.tail

theorem AnnotationParts.IsProper.stops_digits {a : AnnotationParts} (h : a.IsProper)
    (front : Text) : Stops isSpace (front ++ a.digits).reverse := by
  apply Text.stops_reverse_append _ h.digits_isNumeral.ne_nil
  apply Text.stops_of_forall
  intro c hc
  exact Go.isSpace_of_isDigit (h.digits_isNumeral.isDigit c (List.mem_reverse.1 hc))

/-- A marker with nothing but digits behind it is the last one: its first character is no digit and
does not come again in it. -/
theorem cutLast?_statusMarker (before : Text) {digits : Text}
    (h : ∀ c ∈ digits, c.isDigit = true) :
    Text.cutLast? statusMarker (before ++ (statusMarker ++ digits)) = some (before, digits) := by
  have hat : '@' ∉ ("http=" : Text) ++ digits := by
    rw [List.mem_append, not_or]
    refine ⟨by decide, fun hmem => ?_⟩
    exact absurd (h '@' hmem) (by decide)
  exact Text.cutLast?_append hat

/-- A comment that ends in a status is read as its text and its status. -/
theorem annotation?_comment {a : AnnotationParts} (h : a.IsProper) :
    annotation? a.comment = some (trimBlank a.text, numeralValue a.digits) := by
  have hbody : trimEnd isSpace a.comment = a.text ++ a.gap ++ (statusMarker ++ a.digits) := by
    unfold AnnotationParts.comment
    rw [Text.trimEnd_append_of_stops h.tail_isSpaces (h.stops_digits _), List.append_assoc]
  -- The digits hold no marker, so the last marker is the one in front of them.
  have hcut := cutLast?_statusMarker (a.text ++ a.gap) h.digits_isNumeral.isDigit
  have hdigits : (a.digits.isEmpty || !a.digits.all Char.isDigit) = false := by
    simpa [h.digits_isNumeral.ne_nil] using h.digits_isNumeral.isDigit
  have htext : trimEnd isSpace (a.text ++ a.gap) = a.text :=
    Text.trimEnd_append_of_stops h.gap_isSpaces h.text_stops
  have hstatus : Text.readWord? a.digits = some (numeralValue a.digits) :=
    Text.readWord?_eq_some_iff.2 ⟨h.digits_isNumeral, rfl, h.status_lt⟩
  have hpos : numeralValue a.digits ≠ 0 := Nat.pos_iff_ne_zero.1 h.status_pos
  simp only [annotation?, hbody, hcut, hdigits, htext, hstatus]
  simp [h.text_ne_nil, h.gap_ne_nil, hpos]

/-- What is read as an annotation is put together from its parts. -/
theorem exists_annotationParts {comment message : Text} {status : Nat}
    (h : annotation? comment = some (message, status)) :
    ∃ a : AnnotationParts, a.IsProper ∧ a.comment = comment ∧ trimBlank a.text = message
      ∧ numeralValue a.digits = status := by
  simp only [annotation?] at h
  split at h
  · cases h
  · next before digits hcut =>
    split_ifs at h with hplain hshort
    simp only [Bool.or_eq_true, List.isEmpty_iff, decide_eq_true_eq, not_or] at hshort
    rcases hshort with ⟨hne, hlength⟩
    split at h
    · cases h
    · next value hvalue =>
      split_ifs at h with hpos
      cases h
      rcases Text.readWord?_eq_some_iff.1 hvalue with ⟨hnumeral, hstatus, hlt⟩
      have hcomment := Text.trimEnd_append_takeEnd isSpace comment
      have hbody := Text.eq_of_cutLast? hcut
      have htext := Text.trimEnd_append_takeEnd isSpace before
      -- Trimming made the text shorter, so there was a gap.
      have hgap : takeEnd isSpace before ≠ [] := by
        intro hnil
        rw [hnil, List.append_nil] at htext
        exact hlength (by rw [htext])
      refine ⟨⟨trimEnd isSpace before, takeEnd isSpace before, digits, takeEnd isSpace comment⟩,
        ⟨hne, Text.stops_reverse_trimEnd isSpace before, Text.isSpaces_takeEnd before, hgap,
          hnumeral, ?_, ?_, Text.isSpaces_takeEnd comment⟩, ?_, rfl, hstatus⟩
      · simp only [hstatus]
        exact Nat.pos_of_ne_zero hpos
      · simpa only [hstatus] using hlt
      · rw [AnnotationParts.comment, htext, List.append_assoc before, ← hbody, hcomment]

/-- A comment is annotated exactly when proper parts make it up. -/
theorem annotation?_eq_some_iff {comment message : Text} {status : Nat} :
    annotation? comment = some (message, status) ↔
      ∃ a : AnnotationParts, a.IsProper ∧ a.comment = comment ∧ trimBlank a.text = message
        ∧ numeralValue a.digits = status := by
  constructor
  · exact exists_annotationParts
  · rintro ⟨a, ha, rfl, rfl, rfl⟩
    exact annotation?_comment ha

/-! ## Entry lines -/

/-- The parts of an entry line, in order, the equals sign and the semicolon left out. -/
structure LineParts where
  indent : Text
  name : Text
  beforeEquals : Text
  afterEquals : Text
  digits : Text
  beforeSemicolon : Text
  afterSemicolon : Text
  remark : Text

namespace LineParts

def line (p : LineParts) : Text :=
  p.indent ++ p.name ++ p.beforeEquals ++ "=" ++ p.afterEquals ++ p.digits ++ p.beforeSemicolon
    ++ ";" ++ p.afterSemicolon ++ p.remark

/-- The comment of the remark, which is empty when there is no remark. -/
def comment (p : LineParts) : Text :=
  trimBlank (p.remark.drop 2)

def entry (p : LineParts) : Entry :=
  classify (numeralValue p.digits) p.name p.comment

/-- ASCII blanks around a name, a numeral that a signed word holds and a remark, which is nothing or
starts with two slashes. -/
structure IsProper (p : LineParts) : Prop where
  indent_isSpaces : IsSpaces p.indent
  name_ne_nil : p.name ≠ []
  name_isWord : ∀ c ∈ p.name, Go.isWordChar c = true
  beforeEquals_isSpaces : IsSpaces p.beforeEquals
  afterEquals_isSpaces : IsSpaces p.afterEquals
  digits_isNumeral : IsNumeral p.digits
  code_lt : numeralValue p.digits < wordLimit
  beforeSemicolon_isSpaces : IsSpaces p.beforeSemicolon
  afterSemicolon_isSpaces : IsSpaces p.afterSemicolon
  remark_eq : p.remark = [] ∨ ∃ comment : Text, p.remark = "//" ++ comment

variable {p : LineParts}

theorem IsProper.stops_name (h : p.IsProper) (rest : Text) : Stops isSpace (p.name ++ rest) := by
  apply Text.stops_append _ h.name_ne_nil
  exact Text.stops_of_forall fun c hc => Go.isSpace_of_isWordChar (h.name_isWord c hc)

theorem IsProper.stops_digits (h : p.IsProper) (rest : Text) :
    Stops isSpace (p.digits ++ rest) := by
  apply Text.stops_append _ h.digits_isNumeral.ne_nil
  exact Text.stops_of_forall fun c hc => Go.isSpace_of_isDigit (h.digits_isNumeral.isDigit c hc)

theorem IsProper.stops_beforeEquals (h : p.IsProper) (rest : Text) :
    Stops Go.isWordChar (p.beforeEquals ++ ("=" ++ rest)) :=
  h.beforeEquals_isSpaces.stops_append (fun _ => Go.isWordChar_of_isSpace) (Text.stops_cons.2 rfl)

theorem IsProper.stops_beforeSemicolon (h : p.IsProper) (rest : Text) :
    Stops Char.isDigit (p.beforeSemicolon ++ (";" ++ rest)) :=
  h.beforeSemicolon_isSpaces.stops_append (fun _ => Go.isDigit_of_isSpace) (Text.stops_cons.2 rfl)

end LineParts

/-- A remark is absent or begins with two slashes. -/
theorem comment?_eq_some_iff {remark comment : Text} :
    comment? remark = some comment ↔
      (remark = [] ∨ ∃ c : Text, remark = "//" ++ c) ∧ comment = trimBlank (remark.drop 2) := by
  constructor
  · intro h
    unfold comment? at h
    split at h
    · next hempty =>
      rw [List.isEmpty_iff.1 hempty]
      cases h
      exact ⟨.inl rfl, rfl⟩
    -- A remark that is not empty must begin with the two slashes.
    · rcases Option.map_eq_some_iff.1 h with ⟨c, hc, rfl⟩
      have hremark := Text.after?_eq_some_iff.1 hc
      subst hremark
      exact ⟨.inr ⟨c, rfl⟩, rfl⟩
  · rintro ⟨rfl | ⟨c, rfl⟩, rfl⟩
    · rfl
    · rfl

theorem stops_of_remark {remark : Text} (h : remark = [] ∨ ∃ c : Text, remark = "//" ++ c) :
    Stops isSpace remark := by
  rcases h with rfl | ⟨c, rfl⟩
  · exact Text.stops_nil
  · exact Text.stops_cons.2 rfl

/-- A line put together from proper parts is read as the entry of these parts. -/
theorem readLine?_line {p : LineParts} (h : p.IsProper) : readLine? p.line = some p.entry := by
  let tail₃ := p.afterSemicolon ++ p.remark
  let tail₂ := p.beforeSemicolon ++ (";" ++ tail₃)
  let tail₁ := p.afterEquals ++ (p.digits ++ tail₂)
  let tail₀ := p.beforeEquals ++ ("=" ++ tail₁)
  have hline : p.line = p.indent ++ (p.name ++ tail₀) := by
    unfold LineParts.line
    simp only [tail₀, tail₁, tail₂, tail₃, List.append_assoc]
  -- Every run stops where the next part begins.
  have hindent : (p.indent ++ (p.name ++ tail₀)).dropWhile isSpace = p.name ++ tail₀ :=
    Text.dropWhile_append_of_stops h.indent_isSpaces (h.stops_name tail₀)
  have hname : Stops Go.isWordChar tail₀ := h.stops_beforeEquals tail₁
  have hequals : tail₀.dropWhile isSpace = "=" ++ tail₁ :=
    Text.dropWhile_append_of_stops h.beforeEquals_isSpaces (Text.stops_cons.2 rfl)
  have hafter : tail₁.dropWhile isSpace = p.digits ++ tail₂ :=
    Text.dropWhile_append_of_stops h.afterEquals_isSpaces (h.stops_digits tail₂)
  have hdigits : Stops Char.isDigit tail₂ := h.stops_beforeSemicolon tail₃
  have hsemicolon : tail₂.dropWhile isSpace = ";" ++ tail₃ :=
    Text.dropWhile_append_of_stops h.beforeSemicolon_isSpaces (Text.stops_cons.2 rfl)
  have hremark : tail₃.dropWhile isSpace = p.remark :=
    Text.dropWhile_append_of_stops h.afterSemicolon_isSpaces (stops_of_remark h.remark_eq)
  have hcode : Text.readWord? p.digits = some (numeralValue p.digits) :=
    Text.readWord?_eq_some_iff.2 ⟨h.digits_isNumeral, rfl, h.code_lt⟩
  have hcomment : comment? p.remark = some p.comment :=
    comment?_eq_some_iff.2 ⟨h.remark_eq, rfl⟩
  have hne : p.name.isEmpty = false := by simpa using h.name_ne_nil
  rw [hline]
  unfold readLine?
  simp only [hindent, Text.takeWhile_append_of_stops h.name_isWord hname,
    Text.dropWhile_append_of_stops h.name_isWord hname, hne, hequals, Text.after?_append, hafter,
    Text.takeWhile_append_of_stops h.digits_isNumeral.isDigit hdigits, hcode,
    Text.dropWhile_append_of_stops h.digits_isNumeral.isDigit hdigits, hsemicolon, hremark,
    hcomment, Option.bind_eq_bind, Option.bind_some, Bool.false_eq_true, if_false]
  rfl

/-- A line that declares an entry is put together from proper parts. -/
theorem exists_lineParts {line : Text} {e : Entry} (h : readLine? line = some e) :
    ∃ p : LineParts, p.IsProper ∧ p.line = line ∧ p.entry = e := by
  simp only [readLine?] at h
  split at h
  · cases h
  · next hname =>
    simp only [Option.bind_eq_bind, Option.bind_eq_some_iff] at h
    rcases h with ⟨tail₁, hequals, code, hcode, tail₃, hsemicolon, comment, hcomment, h⟩
    cases h
    rcases Text.readWord?_eq_some_iff.1 hcode with ⟨hnumeral, hvalue, hlt⟩
    rcases comment?_eq_some_iff.1 hcomment with ⟨hremark, rfl⟩
    have hequals := Text.after?_eq_some_iff.1 hequals
    have hsemicolon := Text.after?_eq_some_iff.1 hsemicolon
    -- The parts are the runs that the reader takes and drops, one behind the other.
    let behindIndent := line.dropWhile isSpace
    let behindName := behindIndent.dropWhile Go.isWordChar
    let atDigits := tail₁.dropWhile isSpace
    let behindDigits := atDigits.dropWhile Char.isDigit
    let p : LineParts := {
      indent := line.takeWhile isSpace
      name := behindIndent.takeWhile Go.isWordChar
      beforeEquals := behindName.takeWhile isSpace
      afterEquals := tail₁.takeWhile isSpace
      digits := atDigits.takeWhile Char.isDigit
      beforeSemicolon := behindDigits.takeWhile isSpace
      afterSemicolon := tail₃.takeWhile isSpace
      remark := tail₃.dropWhile isSpace }
    refine ⟨p, ?_, ?_, ?_⟩
    · exact {
        indent_isSpaces := Text.isSpaces_takeWhile line
        name_ne_nil := fun hnil => hname (List.isEmpty_iff.2 hnil)
        name_isWord := fun _ hc => List.mem_takeWhile_imp hc
        beforeEquals_isSpaces := Text.isSpaces_takeWhile behindName
        afterEquals_isSpaces := Text.isSpaces_takeWhile tail₁
        digits_isNumeral := hnumeral
        code_lt := hvalue ▸ hlt
        beforeSemicolon_isSpaces := Text.isSpaces_takeWhile behindDigits
        afterSemicolon_isSpaces := Text.isSpaces_takeWhile tail₃
        remark_eq := hremark }
    · unfold LineParts.line
      simp only [p, List.append_assoc, List.takeWhile_append_dropWhile,
        ← hsemicolon, behindDigits, atDigits, ← hequals, behindName, behindIndent]
    · simp only [LineParts.entry, LineParts.comment, p, atDigits, behindIndent, hvalue]

/-- A line is an entry line exactly when proper parts make it up. -/
theorem readLine?_eq_some_iff {line : Text} {e : Entry} :
    readLine? line = some e ↔ ∃ p : LineParts, p.IsProper ∧ p.line = line ∧ p.entry = e := by
  constructor
  · exact exists_lineParts
  · rintro ⟨p, hp, rfl, rfl⟩
    exact readLine?_line hp

end Schema

end ErrorCatalog
