import ErrorCatalog.Proofs.Schema.EntryLine
/-!
# Entry lines and annotations have one reading

Proper parts are determined by what they make up: no two decompositions of a line are proper, and no
two of a comment. So what a line declares can be said of *the* parts of the line. The reader of
lines finds them from the front, where each run of one class is followed by a character of another.
The reader of annotations finds them from the end, since the marker and any blank may also occur in
the text before it.
-/

namespace ErrorCatalog

namespace Schema

open Text (Stops isSpace numeralValue trimBlank)

/-! ## Parts of lines -/

theorem stops_equals (rest : Text) : Stops isSpace ("=" ++ rest) :=
  Text.stops_cons.2 rfl

theorem stops_semicolon (rest : Text) : Stops isSpace (";" ++ rest) :=
  Text.stops_cons.2 rfl

/-- Every run of `p` stops where the next part begins, and so does every run of `q`. From the front
on, the parts are the same one after the other. -/
theorem LineParts.IsProper.eq_of_line_eq {p q : LineParts} (hp : p.IsProper) (hq : q.IsProper)
    (h : p.line = q.line) : p = q := by
  simp only [line, List.append_assoc] at h
  -- The parts are cut off one by one from the left: each ends where a character of another kind
  -- begins.
  rcases Text.append_inj_of_stops hp.indent_isSpaces hq.indent_isSpaces (hp.stops_name _)
    (hq.stops_name _) h with ⟨hindent, hatName⟩
  rcases Text.append_inj_of_stops hp.name_isWord hq.name_isWord (hp.stops_beforeEquals _)
    (hq.stops_beforeEquals _) hatName with ⟨hname, hbehindName⟩
  rcases Text.append_inj_of_stops hp.beforeEquals_isSpaces hq.beforeEquals_isSpaces
    (stops_equals _) (stops_equals _) hbehindName with ⟨hbeforeEquals, hatEquals⟩
  have hbehindEquals := List.append_cancel_left hatEquals
  rcases Text.append_inj_of_stops hp.afterEquals_isSpaces hq.afterEquals_isSpaces
    (hp.stops_digits _) (hq.stops_digits _) hbehindEquals with ⟨hafterEquals, hatDigits⟩
  rcases Text.append_inj_of_stops hp.digits_isNumeral.isDigit hq.digits_isNumeral.isDigit
    (hp.stops_beforeSemicolon _) (hq.stops_beforeSemicolon _) hatDigits with
    ⟨hdigits, hbehindDigits⟩
  rcases Text.append_inj_of_stops hp.beforeSemicolon_isSpaces hq.beforeSemicolon_isSpaces
    (stops_semicolon _) (stops_semicolon _) hbehindDigits with ⟨hbeforeSemicolon, hatSemicolon⟩
  have hbehindSemicolon := List.append_cancel_left hatSemicolon
  rcases Text.append_inj_of_stops hp.afterSemicolon_isSpaces hq.afterSemicolon_isSpaces
    (stops_of_remark hp.remark_eq) (stops_of_remark hq.remark_eq) hbehindSemicolon with
    ⟨hafterSemicolon, hremark⟩
  cases p
  cases q
  rw [LineParts.mk.injEq]
  exact ⟨hindent, hname, hbeforeEquals, hafterEquals, hdigits, hbeforeSemicolon, hafterSemicolon,
    hremark⟩

/-- What the parts of a line say about its entry: the name, the code, and kind and text by the
comment. -/
structure LineParts.Declares (p : LineParts) (e : Entry) : Prop where
  name_eq : e.name = p.name
  code_eq : e.code = numeralValue p.digits
  kind :
    (∃ message status, annotation? p.comment = some (message, status)
      ∧ e.httpStatus = status ∧ e.httpMessage = message ∧ e.comment = [])
    ∨ (annotation? p.comment = none
      ∧ e.httpStatus = 0 ∧ e.httpMessage = [] ∧ e.comment = p.comment)

/-- The parts of a line declare the entry that they make. -/
theorem LineParts.declares_entry (p : LineParts) : p.Declares p.entry := by
  unfold entry classify
  cases hread : annotation? p.comment with
  | none => exact ⟨rfl, rfl, .inr ⟨hread, rfl, rfl, rfl⟩⟩
  | some annotation =>
    rcases annotation with ⟨message, status⟩
    rcases annotation?_eq_some_iff.1 hread with ⟨a, ha, -, -, hstatus⟩
    -- The status is positive, so the entry does not turn into an internal one.
    have hpos : ¬ ((status : Int) ≤ 0) := by
      have hvalue := ha.status_pos
      omega
    simp only [Entry.withStatus, if_neg hpos]
    exact ⟨rfl, rfl, .inl ⟨message, status, hread, rfl, rfl, rfl⟩⟩

/-- A line is an entry line exactly when proper parts make it up. The parts are then the only ones,
and the entry is the one that they declare. -/
theorem readLine?_parts (line : Text) :
    ((∃ e, readLine? line = some e) ↔ ∃ p : LineParts, p.IsProper ∧ p.line = line)
    ∧ (∀ p q : LineParts, p.IsProper → p.line = line → q.IsProper → q.line = line → p = q)
    ∧ ∀ p : LineParts, p.IsProper → p.line = line →
        ∃ e, readLine? line = some e ∧ p.Declares e := by
  refine ⟨?_, ?_, ?_⟩
  · constructor
    · rintro ⟨e, he⟩
      rcases readLine?_eq_some_iff.1 he with ⟨p, hp, hline, -⟩
      exact ⟨p, hp, hline⟩
    · rintro ⟨p, hp, hline⟩
      exact ⟨p.entry, readLine?_eq_some_iff.2 ⟨p, hp, hline, rfl⟩⟩
  · intro p q hp hpline hq hqline
    exact hp.eq_of_line_eq hq (hpline.trans hqline.symm)
  · intro p hp hline
    have hread : readLine? line = some p.entry := readLine?_eq_some_iff.2 ⟨p, hp, hline, rfl⟩
    exact ⟨p.entry, hread, p.declares_entry⟩

/-- The greatest code, with more leading zeros than a word has digits and a blank beyond ASCII in
the remark. -/
theorem exists_parts_of_greatest_code :
    ∃ p : LineParts, p.IsProper
      ∧ p.line = "\tA =\x0c000000000000000000009223372036854775807 ;\r//\u00a0b "
      ∧ p.name = "A" ∧ (numeralValue p.digits : Int) = 0x7fffffffffffffff ∧ p.comment = "b" := by
  have hread : readLine? "\tA =\x0c000000000000000000009223372036854775807 ;\r//\u00a0b "
      = some (.internal 0x7fffffffffffffff "A" "b") := by
    decide
  rcases readLine?_parts _ with ⟨haccepts, -, hdeclares⟩
  rcases haccepts.1 ⟨_, hread⟩ with ⟨p, hp, hline⟩
  rcases hdeclares p hp hline with ⟨e, he, hentry⟩
  obtain rfl := Option.some.inj (hread.symm.trans he)
  refine ⟨p, hp, hline, hentry.name_eq.symm, hentry.code_eq.symm, ?_⟩
  -- The entry is internal, so its comment is that of the line.
  rcases hentry.kind with ⟨message, status, -, -, -, hcomment⟩ | ⟨-, -, -, hcomment⟩
  · cases hcomment
  · exact hcomment.symm

/-! ## Parts of annotated comments -/

/-- From the end on, the parts are the same one before the other. -/
theorem AnnotationParts.IsProper.eq_of_comment_eq {a b : AnnotationParts} (ha : a.IsProper)
    (hb : b.IsProper) (h : a.comment = b.comment) : a = b := by
  rcases Text.append_inj_of_stops_reverse ha.tail_isSpaces hb.tail_isSpaces (ha.stops_digits _)
    (hb.stops_digits _) h with ⟨hbeforeTail, htail⟩
  -- Both comments are cut at their last marker.
  have hcut : some (a.text ++ a.gap, a.digits) = some (b.text ++ b.gap, b.digits) := by
    rw [← cutLast?_statusMarker (a.text ++ a.gap) ha.digits_isNumeral.isDigit,
      ← cutLast?_statusMarker (b.text ++ b.gap) hb.digits_isNumeral.isDigit, ← List.append_assoc,
      hbeforeTail, List.append_assoc]
  rcases Prod.mk.inj (Option.some.inj hcut) with ⟨hbeforeMarker, hdigits⟩
  rcases Text.append_inj_of_stops_reverse ha.gap_isSpaces hb.gap_isSpaces ha.text_stops
    hb.text_stops hbeforeMarker with ⟨htext, hgap⟩
  cases a
  cases b
  rw [AnnotationParts.mk.injEq]
  exact ⟨htext, hgap, hdigits, htail⟩

/-- A comment is not annotated exactly if it cannot be put together from parts. -/
theorem annotation?_eq_none_iff {comment : Text} :
    annotation? comment = none ↔ ¬ ∃ a : AnnotationParts, a.IsProper ∧ a.comment = comment := by
  constructor
  · rintro hnone ⟨a, ha, rfl⟩
    rw [annotation?_comment ha] at hnone
    cases hnone
  · intro hparts
    cases hread : annotation? comment with
    | none => rfl
    | some annotation =>
      rcases annotation?_eq_some_iff.1 hread with ⟨a, ha, hcomment, -⟩
      exact absurd ⟨a, ha, hcomment⟩ hparts

/-- A comment is annotated exactly when proper parts make it up. The parts are then the only ones,
and they give message and status. Any other comment belongs to an internal entry, in whatever line
it stands. -/
theorem annotation?_parts (comment : Text) :
    (∀ message status, annotation? comment = some (message, status) ↔
      ∃ a : AnnotationParts, a.IsProper ∧ a.comment = comment ∧ trimBlank a.text = message
        ∧ numeralValue a.digits = status)
    ∧ (∀ a b : AnnotationParts, a.IsProper → a.comment = comment → b.IsProper →
        b.comment = comment → a = b)
    ∧ ((¬ ∃ a : AnnotationParts, a.IsProper ∧ a.comment = comment) →
        annotation? comment = none
        ∧ ∀ p : LineParts, p.IsProper → p.comment = comment →
            readLine? p.line = some (.internal (numeralValue p.digits) p.name comment)) := by
  refine ⟨?_, ?_, ?_⟩
  · intro message status
    exact annotation?_eq_some_iff
  · intro a b ha hacomment hb hbcomment
    exact ha.eq_of_comment_eq hb (hacomment.trans hbcomment.symm)
  · intro hparts
    have hnone := annotation?_eq_none_iff.2 hparts
    refine ⟨hnone, ?_⟩
    intro p hp hcomment
    -- The line is still proper: only its comment is read in another way.
    rw [readLine?_line hp, LineParts.entry, hcomment, classify, hnone]

/-- The marker may stand in the message too, and only the last one counts. A status of zero is
none. -/
theorem exists_annotationParts_of_markers :
    (∃ a : AnnotationParts, a.IsProper ∧ a.comment = "use @http=1 @http=2 @http=0404\x0c"
      ∧ trimBlank a.text = "use @http=1 @http=2" ∧ numeralValue a.digits = 404)
    ∧ ∀ p : LineParts, p.IsProper → p.comment = "gone @http=00" →
        readLine? p.line = some (.internal (numeralValue p.digits) p.name "gone @http=00") := by
  constructor
  · have hread : annotation? "use @http=1 @http=2 @http=0404\x0c"
        = some (("use @http=1 @http=2" : Text), 404) := by
      decide
    exact ((annotation?_parts _).1 _ _).1 hread
  · have hnone : annotation? "gone @http=00" = none := by decide
    exact ((annotation?_parts _).2.2 (annotation?_eq_none_iff.1 hnone)).2

end Schema

end ErrorCatalog
