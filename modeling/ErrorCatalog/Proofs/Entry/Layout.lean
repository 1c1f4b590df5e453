import ErrorCatalog.Proofs.Binding.Scan
import ErrorCatalog.Proofs.Schema.Layout
/-!
# The layout of a source has no influence

Margins and line ends change the entries of neither a schema nor a compiled binding, whether their
lines are accepted or passed over: both are read from the bare lines of the text.
-/

namespace ErrorCatalog

open Text (IgnoresMargins IsRelaid isSpace)

namespace Binding

/-! ## Margins in bindings -/

/-- A blank is not a digit. -/
theorem isDigit_of_isSpace {c : Char} (h : isSpace c = true) : Text.isDigit c = false := by
  simp only [isSpace, Bool.or_eq_true, decide_eq_true_eq] at h
  rcases h with (((rfl | rfl) | rfl) | rfl) | rfl <;> rfl

/-- Blanks around a line of a binding change none of its entries. -/
theorem ignoresMargins_lineEntries : IgnoresMargins lineEntries where
  front hw := lineEntries_append fun c hc => isDigit_of_isSpace (hw c hc)
  back hw := lineEntries_append_of_quote_not_mem (Schema.not_mem_of_isSpaces hw rfl)

/-- The declarations of a binding are those of its bare lines. -/
theorem declarations_eq_bareLines (binding : Text) :
    declarations binding = ((Text.bareLines binding).flatMap lineEntries).filterMap
      fun (digits, name) => (Text.readWord? digits).map fun code => (code, name) := by
  have hnone : lineEntries [] = [] := by simp [lineEntries]
  have hlines : ((Text.lines binding).map (Text.trim isSpace)).flatMap lineEntries
      = (Text.lines binding).flatMap lineEntries := by
    rw [List.flatMap_map]
    exact List.flatMap_congr fun line _ => ignoresMargins_lineEntries.read_trim line
  rw [declarations]
  rcases Text.bareLines_eq_or binding with hbare | hbare
  · rw [hbare, hlines]
  · rw [hbare, List.flatMap_append, hlines, List.flatMap_singleton, hnone, List.append_nil]

end Binding

/-- A text laid out anew, with other line ends and with ASCII blanks added at the ends of its lines,
has the same entries as before, read as a schema and read as a compiled binding. -/
theorem entries_of_isRelaid {t t' : Text} (h : IsRelaid t t') :
    Schema.entries t' = Schema.entries t ∧ Binding.entries t' = Binding.entries t := by
  constructor
  · rw [Schema.entries_eq_bareLines, Schema.entries_eq_bareLines, h.bareLines_eq]
  · have hdeclarations : Binding.declarations t' = Binding.declarations t := by
      rw [Binding.declarations_eq_bareLines, Binding.declarations_eq_bareLines, h.bareLines_eq]
    rw [Binding.entries, Binding.entries, Binding.table, Binding.table, hdeclarations]

/-- A stray carriage return in front of a line feed, another one behind the last line, and a comment
that is a table entry too. -/
theorem entries_of_stray_returns :
    IsRelaid "enum ErrorCode \x7b\nA = 1; // 7: \"B\" @http=400\r\n\x7d"
      " enum ErrorCode \x7b\t\r\n\x0cA = 1; // 7: \"B\" @http=400\r \n\r\x7d\r"
    ∧ Schema.entries " enum ErrorCode \x7b\t\r\n\x0cA = 1; // 7: \"B\" @http=400\r \n\r\x7d\r"
      = [.withStatus 1 "A" 400 "7: \"B\""]
    ∧ Binding.entries " enum ErrorCode \x7b\t\r\n\x0cA = 1; // 7: \"B\" @http=400\r \n\r\x7d\r"
      = [.internal 7 "B" []] := by
  have hclosing : IsRelaid "\x7d" "\r\x7d\r" :=
    @IsRelaid.last "\x7d" "\r" "\r" (by decide) (by decide) (by decide)
  have hentry : IsRelaid "A = 1; // 7: \"B\" @http=400\r\n\x7d"
      "\x0cA = 1; // 7: \"B\" @http=400\r \n\r\x7d\r" :=
    @IsRelaid.line "A = 1; // 7: \"B\" @http=400" "\x0c" "\r " _ _ .returnFeed .feed
      (by decide) (by decide) (by decide) hclosing
  have hrelaid : IsRelaid "enum ErrorCode \x7b\nA = 1; // 7: \"B\" @http=400\r\n\x7d"
      " enum ErrorCode \x7b\t\r\n\x0cA = 1; // 7: \"B\" @http=400\r \n\r\x7d\r" :=
    @IsRelaid.line "enum ErrorCode \x7b" " " "\t" _ _ .feed .returnFeed
      (by decide) (by decide) (by decide) hentry
  have hschema : Schema.entries "enum ErrorCode \x7b\nA = 1; // 7: \"B\" @http=400\r\n\x7d"
      = [.withStatus 1 "A" 400 "7: \"B\""] := by decide
  have hbinding : Binding.entries "enum ErrorCode \x7b\nA = 1; // 7: \"B\" @http=400\r\n\x7d"
      = [.internal 7 "B" []] := by decide +kernel
  obtain ⟨hsame, hsame'⟩ := entries_of_isRelaid hrelaid
  exact ⟨hrelaid, hsame.trans hschema, hsame'.trans hbinding⟩

end ErrorCatalog
