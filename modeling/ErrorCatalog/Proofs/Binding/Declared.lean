import ErrorCatalog.Binding.Basic
import ErrorCatalog.Proofs.SortedTable
import ErrorCatalog.Proofs.Text.Lines
import ErrorCatalog.Proofs.Text.Scan
/-!
# Entries that compiled bindings declare

`Binding.IsDeclared` describes the entries that reading a compiled binding can give. A name is what
stands between two quotes of one line, so it has neither a quote nor a line feed; a code is a
numeral that a signed word holds; and nothing else is known about an entry. The codes ascend
strictly, since the entries are the rows of a table.
-/

namespace ErrorCatalog

namespace Binding

open Text (isBlank isDigit wordLimit)

variable {t digits name rest line binding : Text} {code : Nat}

/-! ## Table entries -/

/-- The text is a table entry with these digits and this name, followed by `rest`. -/
structure IsPair (t digits name rest : Text) : Prop where
  digits_ne_nil : digits ≠ []
  digits_isDigit : ∀ c ∈ digits, isDigit c = true
  name_ne_nil : name ≠ []
  quote_not_mem : '"' ∉ name
  spelling : ∃ gap : Text, (∀ c ∈ gap, isBlank c = true) ∧
    t = digits ++ ":" ++ gap ++ "\"" ++ name ++ "\"" ++ rest

/-- What the reader takes for a table entry has the shape of one. -/
theorem isPair_of_readPair? (h : readPair? t = some (digits, name, rest)) :
    IsPair t digits name rest := by
  simp only [readPair?, Option.bind_eq_bind] at h
  split at h
  · cases h
  · next hdigits =>
    obtain ⟨behindColon, hcolon, h⟩ := Option.bind_eq_some_iff.1 h
    obtain ⟨behindQuote, hquote, h⟩ := Option.bind_eq_some_iff.1 h
    obtain ⟨behindName, hend, h⟩ := Option.bind_eq_some_iff.1 h
    split at h
    · cases h
    · next hname =>
      cases h
      refine ⟨by simpa using hdigits, fun c hc => List.mem_takeWhile_imp hc, by simpa using hname,
        ?_, behindColon.takeWhile isBlank, fun c hc => List.mem_takeWhile_imp hc, ?_⟩
      · intro hmem
        have hquoted := List.mem_takeWhile_imp hmem
        simp at hquoted
      · -- Each part is what its scanner took, put back in front of what it left.
        have hfront := Text.after?_eq_some_iff.1 hcolon
        have hgap := Text.after?_eq_some_iff.1 hquote
        have hback := Text.after?_eq_some_iff.1 hend
        calc
          t = t.takeWhile isDigit ++ (":" ++ behindColon) := by
              rw [← hfront, List.takeWhile_append_dropWhile]
          _ = t.takeWhile isDigit ++ (":" ++ (behindColon.takeWhile isBlank
                ++ ("\"" ++ behindQuote))) := by
              rw [← hgap, List.takeWhile_append_dropWhile]
          _ = t.takeWhile isDigit ++ (":" ++ (behindColon.takeWhile isBlank
                ++ ("\"" ++ (behindQuote.takeWhile (· != '"') ++ ("\"" ++ rest))))) := by
              rw [← hback, List.takeWhile_append_dropWhile]
          _ = _ := by simp only [List.append_assoc]

/-- The name and the rest of a table entry are cut out of the text: they bring in no new
character. -/
theorem IsPair.subset (h : IsPair t digits name rest) : name ⊆ t ∧ rest ⊆ t := by
  obtain ⟨gap, -, rfl⟩ := h.spelling
  constructor
  · intro c hc
    simp [hc]
  · intro c hc
    simp [hc]

/-- A name found in a line is not empty, stands between quotes and has none itself. -/
theorem name_of_mem_lineEntries (h : (digits, name) ∈ lineEntries line) :
    name ≠ [] ∧ '"' ∉ name ∧ name ⊆ line := by
  fun_induction lineEntries line with
  | case1 => cases h
  | case2 c others found foundName behind hread ih =>
    have hpair := isPair_of_readPair? hread
    rcases List.mem_cons.1 h with hfirst | hlater
    · cases hfirst
      exact ⟨hpair.name_ne_nil, hpair.quote_not_mem, hpair.subset.1⟩
    · -- The search goes on behind the table entry, in a part of the line.
      rcases ih hlater with ⟨hne, hquote, hsubset⟩
      exact ⟨hne, hquote, fun c hc => hpair.subset.2 (hsubset hc)⟩
  | case3 c others hnone ih =>
    rcases ih h with ⟨hne, hquote, hsubset⟩
    exact ⟨hne, hquote, fun c hc => List.mem_cons_of_mem _ (hsubset hc)⟩

/-! ## Bindings -/

/-- An entry as bindings declare it. -/
structure IsDeclared (e : Entry) : Prop where
  name_ne_nil : e.name ≠ []
  quote_not_mem : '"' ∉ e.name
  feed_not_mem : '\n' ∉ e.name
  code_eq : ∃ code : Nat, code < wordLimit ∧ e.code = code
  status_eq : e.httpStatus = 0
  comment_eq : e.comment = []
  message_eq : e.httpMessage = []

/-- Codes are bounded because the numeral in front of a name was read as a signed word. -/
theorem isDeclared_of_mem_declarations (h : (code, name) ∈ declarations binding) :
    IsDeclared (.internal code name []) := by
  rcases List.mem_filterMap.1 h with ⟨⟨digits, name⟩, hmem, hread⟩
  rcases List.mem_flatMap.1 hmem with ⟨line, hline, hmem⟩
  rcases name_of_mem_lineEntries hmem with ⟨hne, hquote, hsubset⟩
  obtain ⟨value, hvalue, hpair⟩ := Option.map_eq_some_iff.1 hread
  cases hpair
  have hfeed : '\n' ∉ name := fun hmem => Text.not_mem_of_mem_lines hline (hsubset hmem)
  have hcode := Text.lt_wordLimit_of_readWord? hvalue
  exact ⟨hne, hquote, hfeed, ⟨code, hcode, rfl⟩, rfl, rfl, rfl⟩

/-- Every entry of a binding satisfies the model, since each is a row of the table. -/
theorem isDeclared_of_mem_entries {e : Entry} (h : e ∈ entries binding) : IsDeclared e := by
  rcases List.mem_map.1 h with ⟨⟨code, name⟩, hrow, rfl⟩
  exact isDeclared_of_mem_declarations (SortedTable.mem_of_mem_ofPairs hrow)

/-- The table has its keys in strictly ascending order, so no code occurs twice. -/
theorem ascending_entries (binding : Text) :
    (entries binding).Pairwise fun e other => e.code < other.code := by
  have htable : SortedTable.IsAscending (table binding) :=
    SortedTable.isAscending_ofPairs (declarations binding)
  unfold entries
  refine List.pairwise_map.2 (htable.imp ?_)
  intro row other hlt
  exact Int.ofNat_lt.2 hlt

end Binding

end ErrorCatalog
