import ErrorCatalog.Text.Blank
import ErrorCatalog.Text.Case
import ErrorCatalog.Text.Digit
import ErrorCatalog.Text.Grapheme
import Mathlib.Tactic.SplitIfs
/-!
# Look-ups in sorted tables

A look-up in a table of ranges gives up at the first range that starts above the code point. In a
sorted table no later range could have held it, so the look-up answers whether any range does. All
tables that character classes are read from are sorted.
-/

namespace ErrorCatalog

namespace Text

namespace Ranges

variable {table others : Ranges} {first last n : Nat}

theorem isSorted_cons (h : isSorted ((first, last) :: others) = true) :
    first ≤ last ∧ (∀ range ∈ others.head?, last < range.1) ∧ isSorted others = true := by
  cases others with
  | nil => simpa [isSorted] using h
  | cons next others =>
    rcases next with ⟨start, stop⟩
    simpa [isSorted, and_assoc] using h

/-- No range of a sorted table starts before the first one. -/
theorem first_le_of_isSorted (h : isSorted ((first, last) :: others) = true) :
    ∀ range ∈ (first, last) :: others, first ≤ range.1 := by
  induction others generalizing first last with
  | nil => simp
  | cons next others ih =>
    rcases next with ⟨start, stop⟩
    rcases isSorted_cons h with ⟨hle, hnext, hothers⟩
    have hstart : last < start := hnext (start, stop) rfl
    intro range hrange
    rcases List.mem_cons.1 hrange with rfl | hrange
    · exact Nat.le_refl first
    · have hrest := ih hothers range hrange
      omega

/-- In a sorted table a look-up finds a code point exactly when one of the ranges holds it. -/
theorem contains_iff (h : table.isSorted = true) :
    table.contains n = true ↔ ∃ range ∈ table, range.1 ≤ n ∧ n ≤ range.2 := by
  induction table with
  | nil => simp [contains]
  | cons range others ih =>
    rcases range with ⟨first, last⟩
    have hothers := ih (isSorted_cons h).2.2
    unfold contains
    split_ifs with hlow hhigh
    · -- The look-up gives up here, and rightly: every range starts above the code point.
      simp only [false_iff]
      rintro ⟨range, hrange, hle, -⟩
      have hfirst := first_le_of_isSorted h range hrange
      omega
    · exact iff_of_true rfl ⟨(first, last), List.mem_cons_self, by omega, hhigh⟩
    · rw [hothers]
      constructor
      · rintro ⟨range, hrange, hholds⟩
        exact ⟨range, List.mem_cons_of_mem _ hrange, hholds⟩
      · rintro ⟨range, hrange, hholds⟩
        rcases List.mem_cons.1 hrange with rfl | hrange
        · exact absurd hholds.2 hhigh
        · exact ⟨range, hrange, hholds⟩

end Ranges

/-! ## The tables -/

/-- The tables of all character classes. -/
def classTables : List Ranges :=
  [blankRanges, digitRanges, CaseTable.casedRanges, CaseTable.ignorableRanges,
    GraphemeTable.controlRanges, GraphemeTable.extendRanges, GraphemeTable.spacingMarkRanges,
    GraphemeTable.prependRanges, GraphemeTable.pictographRanges, GraphemeTable.linkerRanges,
    GraphemeTable.consonantRanges, hangulLeadingRanges, hangulVowelRanges, hangulTrailingRanges]

/-- All tables are sorted, by running the test on each. -/
theorem isSorted_of_mem_classTables : ∀ table ∈ classTables, table.isSorted = true := by
  decide +kernel

/-- A character is in a class exactly when some range of the table of the class holds its code
point. -/
theorem contains_iff_of_mem_classTables {table : Ranges} (h : table ∈ classTables) (c : Char) :
    table.contains c.toNat = true ↔ ∃ range ∈ table, range.1 ≤ c.toNat ∧ c.toNat ≤ range.2 :=
  Ranges.contains_iff (isSorted_of_mem_classTables table h)

end Text

end ErrorCatalog
