import ErrorCatalog.Proofs.Binding.LineEntries

/-!
# The search for table entries

`Binding.IsScan` says what the table entries of a line are, without a word about how they are found:
the first of them is the one that begins earliest, the others are those of what follows it, and
there are none when no table entry begins anywhere. One place in a line begins one table entry at
most, so the search finds just these.

Every table entry ends with a quote. Hence characters behind the last quote of a line have no
influence, among them the carriage return that may stand at the end of a line.
-/

namespace ErrorCatalog

namespace Binding

variable {t line front digits name rest tail binding : Text} {found : List (Text × Text)}

/-! ## The relation -/

/-- No table entry begins anywhere in the text. -/
def IsBare (t : Text) : Prop :=
  ∀ front behind digits name rest, t = front ++ behind → ¬ IsPair behind digits name rest

/-- The first table entry of a line has these digits and this name, and is followed by `rest`. -/
def IsFirstPair (line digits name rest : Text) : Prop :=
  ∃ front pair, line = front ++ pair ∧ IsPair pair digits name rest
    ∧ ∀ before behind digits name rest, line = before ++ behind → before.length < front.length →
        ¬ IsPair behind digits name rest

/-- The table entries of a line from left to right, each search going on behind the one before. -/
inductive IsScan : Text → List (Text × Text) → Prop where
  | bare {line : Text} (h : IsBare line) : IsScan line []
  | pair {line digits name rest : Text} {others : List (Text × Text)}
      (h : IsFirstPair line digits name rest) (hothers : IsScan rest others) :
      IsScan line ((digits, name) :: others)

/-- The empty text holds no table entry. -/
theorem not_isPair_nil : ¬ IsPair [] digits name rest := by
  intro h
  rcases h.spelling with ⟨gap, -, hspelling⟩
  simp at hspelling

/-- The reader fails only where no table entry begins. -/
theorem readPair?_eq_none (h : ∀ digits name rest, ¬ IsPair t digits name rest) :
    readPair? t = none := by
  rw [Option.eq_none_iff_forall_not_mem]
  rintro ⟨digits, name, rest⟩ hread
  exact h digits name rest (isPair_of_readPair? hread)

/-! ## The search finds the table entries -/

/-- A text in which no entry begins anywhere has none. -/
theorem lineEntries_of_isBare (h : IsBare t) : lineEntries t = [] := by
  induction t with
  | nil => simp [lineEntries]
  | cons c t ih =>
    have hnone : readPair? (c :: t) = none :=
      readPair?_eq_none fun digits name rest => h [] (c :: t) digits name rest rfl
    have htail : IsBare t := by
      intro front behind digits name rest heq
      exact h (c :: front) behind digits name rest (by rw [heq, List.cons_append])
    rw [lineEntries_cons_of_none hnone, ih htail]

/-- The search passes over a front in which no table entry begins. -/
theorem lineEntries_append_of_first
    (h : ∀ before behind digits name rest, front ++ t = before ++ behind →
      before.length < front.length → ¬ IsPair behind digits name rest) :
    lineEntries (front ++ t) = lineEntries t := by
  induction front with
  | nil => rfl
  | cons c front ih =>
    have hnone : readPair? (c :: (front ++ t)) = none :=
      readPair?_eq_none fun digits name rest =>
        h [] (c :: (front ++ t)) digits name rest rfl (Nat.succ_pos front.length)
    -- A match behind the first character would be one of the whole text, one place further on.
    have hlater := ih fun before behind digits name rest heq hlt =>
      h (c :: before) behind digits name rest (by rw [List.cons_append, heq, List.cons_append])
        (Nat.succ_lt_succ hlt)
    exact (lineEntries_cons_of_none hnone).trans hlater

/-- The search finds what a scan finds. The induction is on the scan, one step for each entry. -/
theorem lineEntries_of_isScan (h : IsScan line found) : lineEntries line = found := by
  induction h with
  | bare h => exact lineEntries_of_isBare h
  | pair h hothers ih =>
    rcases h with ⟨front, pair, rfl, hpair, hfirst⟩
    rw [lineEntries_append_of_first hfirst, lineEntries_of_isPair hpair, ih]

/-- Where no table entry begins at the first character, the table entries are those of the rest. -/
theorem IsScan.cons {c : Char} (hnone : ∀ digits name rest, ¬ IsPair (c :: t) digits name rest)
    (h : IsScan t found) : IsScan (c :: t) found := by
  -- A character at which nothing begins moves the first match on by one, or there is none to move.
  cases h with
  | bare h =>
    refine .bare ?_
    intro front behind digits name rest heq
    cases front with
    | nil =>
      cases heq
      exact hnone digits name rest
    | cons d front => exact h front behind digits name rest (List.cons.inj heq).2
  | pair h hothers =>
    rcases h with ⟨front, pair, rfl, hpair, hfirst⟩
    refine .pair ⟨c :: front, pair, rfl, hpair, ?_⟩ hothers
    intro before behind digits name rest heq hlt
    cases before with
    | nil =>
      cases heq
      exact hnone digits name rest
    | cons d before =>
      exact hfirst before behind digits name rest (List.cons.inj heq).2 (Nat.lt_of_succ_lt_succ hlt)

/-- What the search finds is a scan of the line: each search goes on behind the one before. -/
theorem isScan_lineEntries (line : Text) : IsScan line (lineEntries line) := by
  -- The cases follow the search: the end, a match here, no match here.
  fun_induction lineEntries line with
  | case1 =>
    refine .bare ?_
    intro front behind digits name rest heq
    rw [(List.append_eq_nil_iff.1 heq.symm).2]
    exact not_isPair_nil
  | case2 c others digits name rest hread ih =>
    refine .pair ⟨[], c :: others, rfl, isPair_of_readPair? hread, ?_⟩ ih
    intro before behind digits name rest _ hlt
    exact absurd hlt (Nat.not_lt_zero before.length)
  | case3 c others hnone ih =>
    refine ih.cons ?_
    intro digits name rest hpair
    rw [readPair?_of_isPair hpair] at hnone
    cases hnone

/-- A line has exactly one scan. -/
theorem isScan_iff : IsScan line found ↔ lineEntries line = found := by
  constructor
  · exact lineEntries_of_isScan
  · intro h
    exact h ▸ isScan_lineEntries line

/-! ## Behind the last quote -/

/-- A table entry stays one, whatever is put behind it. -/
theorem IsPair.append (h : IsPair t digits name rest) (tail : Text) :
    IsPair (t ++ tail) digits name (rest ++ tail) where
  digits_ne_nil := h.digits_ne_nil
  digits_isDigit := h.digits_isDigit
  name_ne_nil := h.name_ne_nil
  quote_not_mem := h.quote_not_mem
  spelling := by
    rcases h.spelling with ⟨gap, hgap, hspelling⟩
    exact ⟨gap, hgap, by rw [hspelling, List.append_assoc]⟩

/-- A table entry that begins in front of a text without quotes ends in front of it. -/
theorem IsPair.of_append (h : IsPair (t ++ tail) digits name rest) (hquote : '"' ∉ tail) :
    ∃ rest', IsPair t digits name rest' := by
  rcases h.spelling with ⟨gap, hgap, hspelling⟩
  rcases List.append_eq_append_iff.1 hspelling with ⟨tooMuch, htaken, htail⟩ | ⟨rest', ht, -⟩
  · -- The table entry would reach into the tail, but its last character is a quote.
    rcases List.eq_nil_or_concat' tooMuch with rfl | ⟨before, last, rfl⟩
    · rw [List.append_nil] at htaken
      exact ⟨[], h.digits_ne_nil, h.digits_isDigit, h.name_ne_nil, h.quote_not_mem, gap, hgap,
        by rw [← htaken, List.append_nil]⟩
    · have hlast : '"' = last := by
        rw [← List.append_assoc] at htaken
        exact (List.append_singleton_inj.1 htaken).2
      refine absurd ?_ hquote
      rw [htail, hlast]
      simp
  · exact ⟨rest', h.digits_ne_nil, h.digits_isDigit, h.name_ne_nil, h.quote_not_mem, gap, hgap, ht⟩

/-- A name stands between quotes, so there is no entry without one. -/
theorem lineEntries_of_quote_not_mem (h : '"' ∉ t) : lineEntries t = [] := by
  refine lineEntries_of_isBare ?_
  intro front behind digits name rest heq hpair
  rcases hpair.spelling with ⟨gap, -, hspelling⟩
  refine h ?_
  rw [heq, hspelling]
  simp

/-- What has no quote adds no entry to the line in front of it. -/
theorem lineEntries_append_of_quote_not_mem (h : '"' ∉ tail) :
    lineEntries (line ++ tail) = lineEntries line := by
  fun_induction lineEntries line with
  | case1 => exact lineEntries_of_quote_not_mem h
  | case2 c others digits name rest hread ih =>
    rw [lineEntries_of_isPair ((isPair_of_readPair? hread).append tail), ih]
  | case3 c others hnone ih =>
    -- A match of the longer text ends with a quote, so it ends before the tail begins.
    have hstill : readPair? (c :: (others ++ tail)) = none := by
      refine readPair?_eq_none ?_
      intro digits name rest hpair
      rcases IsPair.of_append (t := c :: others) hpair h with ⟨rest', hbefore⟩
      rw [readPair?_of_isPair hbefore] at hnone
      cases hnone
    rw [List.cons_append, lineEntries_cons_of_none hstill, ih]

/-- A carriage return at the end of a line is no part of any entry. -/
theorem lineEntries_dropCarriageReturn (line : Text) :
    lineEntries (Text.dropCarriageReturn line) = lineEntries line := by
  unfold Text.dropCarriageReturn
  split
  · next rest heq =>
    have hline : line = rest.reverse ++ ['\r'] := by simpa using congrArg List.reverse heq
    rw [hline, lineEntries_append_of_quote_not_mem (by decide)]
  · rfl

/-! ## Bindings put together -/

/-- The entries of two texts with a line feed between them are those of both, in order. -/
theorem flatMap_lineEntries_append_feed (t rest : Text) :
    (Text.lines (t ++ '\n' :: rest)).flatMap lineEntries
      = (Text.lines t).flatMap lineEntries ++ (Text.lines rest).flatMap lineEntries := by
  induction t using Text.induction_on_lines with
  | last t ht =>
    rw [Text.lines_append_cons ht, List.flatMap_cons, lineEntries_dropCarriageReturn,
      Text.lines_of_not_mem ht]
    -- The last line is no line of its own when it is empty, but then it has no table entries.
    split_ifs with hempty
    · rw [List.isEmpty_iff.1 hempty]
      simp [lineEntries]
    · simp
  | step line others hline ih =>
    have hmore : line ++ '\n' :: others ++ '\n' :: rest
        = line ++ '\n' :: (others ++ '\n' :: rest) := by simp
    rw [hmore, Text.lines_append_cons hline, Text.lines_append_cons hline, List.flatMap_cons,
      List.flatMap_cons, ih, List.append_assoc]

/-- A line feed between two bindings keeps their declarations apart, however the first one ends. -/
theorem declarations_append_feed (binding rest : Text) :
    declarations (binding ++ '\n' :: rest) = declarations binding ++ declarations rest := by
  simp only [declarations, flatMap_lineEntries_append_feed, List.filterMap_append]

end Binding

end ErrorCatalog
