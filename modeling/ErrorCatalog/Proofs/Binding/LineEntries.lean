import ErrorCatalog.Proofs.Binding.Declared
import Mathlib.Data.List.Chain
/-!
# Table entries of a line

What the search for table entries finds in a line whose parts are known. `Binding.IsPair` describes
a table entry at the very beginning of a text, and the reader accepts exactly these. The search
passes over characters that no table entry can begin with, takes a table entry where one begins, and
finds nothing in a text in which no digit stands directly in front of a colon.
-/

namespace ErrorCatalog

namespace Binding

open Text (Stops isBlank isDigit)

variable {t digits name rest : Text}

/-! ## The reader -/

/-- The reader takes every text of the shape, in front of whatever follows it. -/
theorem readPair?_of_isPair (h : IsPair t digits name rest) :
    readPair? t = some (digits, name, rest) := by
  rcases h.spelling with ⟨gap, hgap, hspelling⟩
  -- Every run stops where the next part begins.
  have hcolon : Stops isDigit (":" ++ (gap ++ ("\"" ++ (name ++ ("\"" ++ rest))))) :=
    Text.stops_cons.2 rfl
  have hopen : Stops isBlank ("\"" ++ (name ++ ("\"" ++ rest))) := Text.stops_cons.2 rfl
  have hclose : Stops (· != '"') ("\"" ++ rest) := Text.stops_cons.2 rfl
  have hname : ∀ c ∈ name, (c != '"') = true := by
    intro c hc
    have hne : c ≠ '"' := fun heq => h.quote_not_mem (heq ▸ hc)
    simpa using hne
  have hdigits : digits.isEmpty = false := by simpa using h.digits_ne_nil
  have hnonempty : name.isEmpty = false := by simpa using h.name_ne_nil
  simp only [hspelling, List.append_assoc]
  simp only [readPair?, Text.takeWhile_append_of_stops h.digits_isDigit hcolon,
    Text.dropWhile_append_of_stops h.digits_isDigit hcolon, hdigits, Text.after?_append,
    Option.bind_eq_bind, Option.bind_some, Text.dropWhile_append_of_stops hgap hopen,
    Text.takeWhile_append_of_stops hname hclose, Text.dropWhile_append_of_stops hname hclose,
    hnonempty, Bool.false_eq_true, if_false]

/-- No table entry begins with anything but a digit. -/
theorem readPair?_cons_eq_none {c : Char} (h : isDigit c = false) : readPair? (c :: t) = none := by
  simp [readPair?, h]

/-! ## The search -/

/-- An entry at the front of a line is found first, and the search goes on behind it. -/
theorem lineEntries_of_isPair (h : IsPair t digits name rest) :
    lineEntries t = (digits, name) :: lineEntries rest := by
  have hread := readPair?_of_isPair h
  fun_cases lineEntries t with
  | case1 => cases hread
  | case2 c others found foundName behind heq =>
    have hsame := heq.symm.trans hread
    cases hsame
    rfl
  | case3 c others hnone =>
    have hsame := hnone.symm.trans hread
    cases hsame

/-- Where no entry begins the search moves on by one character. -/
theorem lineEntries_cons_of_none {c : Char} (h : readPair? (c :: t) = none) :
    lineEntries (c :: t) = lineEntries t := by
  rw [lineEntries]
  split
  · next heq =>
    have hsame := heq.symm.trans h
    cases hsame
  · rfl

/-- The search passes over what holds no digit. -/
theorem lineEntries_append {front : Text} (h : ∀ c ∈ front, isDigit c = false) :
    lineEntries (front ++ t) = lineEntries t := by
  induction front with
  | nil => rfl
  | cons c front ih =>
    rcases List.forall_mem_cons.1 h with ⟨hc, hfront⟩
    exact (lineEntries_cons_of_none (readPair?_cons_eq_none hc)).trans (ih hfront)

/-! ## Texts without table entries -/

/-- The second of two neighbours is no colon behind a digit. -/
def KeepsApart (c d : Char) : Prop :=
  d = ':' → isDigit c = false

instance (c d : Char) : Decidable (KeepsApart c d) :=
  inferInstanceAs (Decidable (d = ':' → isDigit c = false))

/-- A text without colons keeps digits and colons apart. -/
theorem isChain_keepsApart_of_not_mem (h : ':' ∉ t) : t.IsChain KeepsApart := by
  apply List.Pairwise.isChain
  refine List.pairwise_of_forall_mem_list ?_
  intro c _ d hd heq
  exact absurd (heq ▸ hd) h

/-- A table entry has a colon right behind a digit, so it cannot begin in such a text. -/
theorem not_isPair_of_isChain (h : t.IsChain KeepsApart) : ¬ IsPair t digits name rest := by
  intro hpair
  rcases hpair.spelling with ⟨gap, -, rfl⟩
  -- The last digit is the neighbour of the colon.
  rcases List.eq_nil_or_concat digits with hnil | ⟨before, last, hlast⟩
  · exact hpair.digits_ne_nil hnil
  · have hdigit : isDigit last = true := hpair.digits_isDigit last (by simp [hlast])
    rw [List.concat_eq_append] at hlast
    simp only [hlast, List.append_assoc] at h
    have htail : (last :: ':' :: (gap ++ ("\"" ++ (name ++ ("\"" ++ rest))))).IsChain KeepsApart :=
      h.right_of_append
    have hapart : isDigit last = false := (List.isChain_cons_cons.1 htail).1 rfl
    rw [hdigit] at hapart
    cases hapart

/-- A line in which no colon stands behind a digit has no entries. -/
theorem lineEntries_eq_nil (h : t.IsChain KeepsApart) : lineEntries t = [] := by
  induction t with
  | nil => simp [lineEntries]
  | cons c t ih =>
    have hnone : readPair? (c :: t) = none := by
      rw [Option.eq_none_iff_forall_not_mem]
      rintro ⟨digits, name, rest⟩ hread
      exact not_isPair_of_isChain h (isPair_of_readPair? hread)
    exact (lineEntries_cons_of_none hnone).trans (ih h.tail)

/-! ## Bindings -/

/-- Whole lines in front declare what they declare alone. -/
theorem declarations_append {front : Text} (h : Text.IsWhole front) :
    declarations (front ++ rest) = declarations front ++ declarations rest := by
  simp only [declarations, Text.lines_append h, List.flatMap_append, List.filterMap_append]

end Binding

end ErrorCatalog
