import ErrorCatalog.Proofs.Go.Identifier
import ErrorCatalog.Proofs.Text.Lines
import ErrorCatalog.Proofs.Text.Numeral
/-!
# Lines without controls

A line of source is *clean* when it has no control character but tabs. Clean lines are read back as
they were written, since they hold neither a line feed nor a carriage return.
-/

namespace ErrorCatalog

namespace Text

variable {t u : Text}

/-- The only control characters are tabs. -/
def IsClean (t : Text) : Prop :=
  ∀ c ∈ t, isControl c = false ∨ c = '\t'

instance (t : Text) : Decidable (IsClean t) :=
  List.decidableBAll (fun c => isControl c = false ∨ c = '\t') t

/-- Texts are clean together exactly if each of them is. -/
theorem isClean_append : IsClean (t ++ u) ↔ IsClean t ∧ IsClean u :=
  List.forall_mem_append

theorem isClean_of_not_isControl (h : ∀ c ∈ t, isControl c = false) : IsClean t :=
  fun c hc => .inl (h c hc)

theorem isClean_of_isWordChar (h : ∀ c ∈ t, Go.isWordChar c = true) : IsClean t :=
  isClean_of_not_isControl fun c hc => Go.isControl_of_isWordChar (h c hc)

theorem isClean_ofNat (n : Nat) : IsClean (ofNat n) :=
  isClean_of_isWordChar fun c hc => Go.isWordChar_of_isDigit ((isNumeral_ofNat n).isDigit c hc)

/-- Numbers are clean. -/
theorem isClean_ofInt (i : Int) : IsClean (ofInt i) := by
  cases i with
  | ofNat n => exact isClean_ofNat n
  | negSucc n =>
    intro c hc
    rcases List.mem_cons.1 hc with rfl | hc
    · exact .inl rfl
    · exact isClean_ofNat (n + 1) c hc

/-- A clean text has no control character but the tab. -/
theorem IsClean.not_mem (h : IsClean t) {c : Char} (hc : isControl c = true) (htab : c ≠ '\t') :
    c ∉ t := by
  intro hmem
  rcases h c hmem with hfalse | heq
  · rw [hc] at hfalse
    cases hfalse
  · exact htab heq

/-- Clean lines are read back. -/
theorem lines_unlines_of_isClean {ls : List Text} (h : ∀ line ∈ ls, IsClean line) :
    lines (unlines ls) = ls := by
  apply lines_unlines
  intro line hline
  refine ⟨(h line hline).not_mem rfl (by decide), ?_⟩
  intro hlast
  exact (h line hline).not_mem rfl (by decide) (List.mem_of_getLast? hlast)

end Text

end ErrorCatalog
