import ErrorCatalog.Proofs.Text.Scan
import ErrorCatalog.Text.Case
/-!
# No upper-case form starts with a small letter

The upper-case form of a character is never empty, and its first character is not one of the letters
from `a` to `z`. Every run of the table leads past them, so that a letter could only be left by a
character that no run covers; the letters themselves are covered by the first run.
-/

namespace ErrorCatalog

namespace Text

variable {n : Nat} {c : Char}

/-! ## Small letters -/

/-- Small letters, by their numbers. -/
theorem isLower_iff_toNat : c.isLower = true ↔ 0x61 ≤ c.toNat ∧ c.toNat ≤ 0x7A := by
  have hlower : c.isLower = (decide ('a'.val ≤ c.val) && decide (c.val ≤ 'z'.val)) := rfl
  have hvalue : c.toNat = c.val.toNat := rfl
  simp only [hlower, Bool.and_eq_true, decide_eq_true_eq, UInt32.le_iff_toNat_le, Char.reduceVal,
    UInt32.reduceToNat, hvalue]

theorem isLower_ofNat_of_not_mem (h : ¬ (0x61 ≤ n ∧ n ≤ 0x7A)) :
    (Char.ofNat n).isLower = false := by
  rw [Bool.eq_false_iff, ne_eq, isLower_iff_toNat]
  by_cases hvalid : n.isValidChar
  · have hchar : Char.ofNat n = Char.ofNatAux n hvalid := dif_pos hvalid
    rw [hchar]
    exact h
  · -- Numbers of no character stand for NUL.
    have hchar : Char.ofNat n = '\x00' := dif_neg hvalid
    rw [hchar]
    decide

/-! ## Runs -/

namespace CaseRun

variable {run : CaseRun} {runs : List CaseRun}

theorem shiftAt_cons_of_covers (h : run.covers n = true) : shiftAt (run :: runs) n = run.shift := by
  have hfirst : ¬ n < run.first := by
    simp only [covers, Bool.and_eq_true, decide_eq_true_eq] at h
    omega
  simp [shiftAt, hfirst, h]

/-- A shift comes from a run that covers the number. -/
theorem exists_of_shiftAt_ne_zero (h : shiftAt runs n ≠ 0) :
    ∃ run ∈ runs, run.covers n = true ∧ shiftAt runs n = run.shift := by
  induction runs with
  | nil => exact absurd rfl h
  | cons run others ih =>
    by_cases hcovers : run.covers n = true
    · exact ⟨run, List.mem_cons_self, hcovers, shiftAt_cons_of_covers hcovers⟩
    · by_cases hfirst : n < run.first
      · simp [shiftAt, hfirst] at h
      · have hothers : shiftAt (run :: others) n = shiftAt others n := by
          simp [shiftAt, hfirst, hcovers]
        rw [hothers] at h ⊢
        rcases ih h with ⟨later, hlater, hcase⟩
        exact ⟨later, List.mem_cons_of_mem run hlater, hcase⟩

end CaseRun

/-! ## The upper-case table -/

namespace CaseTable

/-- A run ends before `a` or starts behind `z`. -/
theorem upperRuns_avoid_lower :
    ∀ run ∈ upperRuns, run.last + run.shift < 0x61 ∨ 0x7A < run.first + run.shift := by
  decide +kernel

/-- An expansion has a first character, and it is no letter from `a` to `z`. -/
theorem upperExpansions_avoid_lower :
    ∀ expansion ∈ upperExpansions, expansion.2 ≠ []
      ∧ Stops Char.isLower (expansion.2.map Char.ofNat) := by
  decide +kernel

theorem avoid_lower_of_lookup {form : List Nat} (h : upperExpansions.lookup n = some form) :
    form ≠ [] ∧ Stops Char.isLower (form.map Char.ofNat) := by
  rcases List.lookup_eq_some_iff.1 h with ⟨before, behind, htable, -⟩
  apply upperExpansions_avoid_lower (n, form)
  simp [htable]

/-- The letters from `a` to `z` are moved. -/
theorem shiftAt_upperRuns_of_isLower (h : c.isLower = true) :
    CaseRun.shiftAt upperRuns c.toNat = -32 := by
  have hrange := isLower_iff_toNat.1 h
  apply CaseRun.shiftAt_cons_of_covers
  simp [CaseRun.covers, Nat.mod_one, hrange]

end CaseTable

theorem upperChar_ne_nil (c : Char) : upperChar c ≠ [] := by
  unfold upperChar mapCase
  cases hform : CaseTable.upperExpansions.lookup c.toNat with
  | some form =>
    simpa using (CaseTable.avoid_lower_of_lookup hform).1
  | none => simp

/-- The upper case of a character does not begin with a small letter. -/
theorem stops_upperChar (c : Char) : Stops Char.isLower (upperChar c) := by
  unfold upperChar mapCase
  cases hform : CaseTable.upperExpansions.lookup c.toNat with
  | some form =>
    exact (CaseTable.avoid_lower_of_lookup hform).2
  | none =>
    apply stops_cons.2
    by_cases hshift : CaseRun.shiftAt CaseTable.upperRuns c.toNat = 0
    · -- The character stays, so it is not one that the first run covers.
      cases hlower : c.isLower with
      | true =>
        rw [CaseTable.shiftAt_upperRuns_of_isLower hlower] at hshift
        cases hshift
      | false => simpa [hshift] using hlower
    · rcases CaseRun.exists_of_shiftAt_ne_zero hshift with ⟨run, hrun, hcovers, heq⟩
      have havoid := CaseTable.upperRuns_avoid_lower run hrun
      simp only [CaseRun.covers, Bool.and_eq_true, decide_eq_true_eq] at hcovers
      apply isLower_ofNat_of_not_mem
      omega

end Text

end ErrorCatalog
