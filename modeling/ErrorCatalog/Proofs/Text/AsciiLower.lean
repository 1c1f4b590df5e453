import ErrorCatalog.Proofs.Text.AsciiCase
import ErrorCatalog.Proofs.Text.Case
import ErrorCatalog.Proofs.Text.Grapheme
import ErrorCatalog.Proofs.Text.Words
/-!
# Flat case within ASCII

Few characters have a lower-case form of ASCII letters, digits and underscores: these characters
themselves and, of all others, the Kelvin sign alone. None of them joins another in a cluster, so an
underscore among them always separates words. Flat case that consists of such characters has only
small letters and digits.
-/

namespace ErrorCatalog

namespace Text

open Go (isWordChar)

variable {n : Nat} {c : Char} {t : Text}

/-- The sign for kelvins, which is a `k` in lower case. -/
def kelvinSign : Char :=
  Char.ofNat 0x212A

/-! ## The lower-case table -/

theorem isWordChar_ofNat_of_le (h : 0x80 ≤ n) : isWordChar (Char.ofNat n) = false := by
  rw [Bool.eq_false_iff]
  intro hword
  have hrange := Go.isWordChar_iff_toNat.1 hword
  rw [Char.toNat_ofNat] at hrange
  split_ifs at hrange
  · omega
  · -- Numbers of no character stand for NUL.
    simp at hrange

namespace CaseTable

/-- A run stays among the capital letters of ASCII, is that of the Kelvin sign or leads to behind
ASCII. -/
theorem lowerRuns_avoid_ascii :
    ∀ run ∈ lowerRuns, (0x41 ≤ run.first ∧ run.last ≤ 0x5A)
      ∨ (run.first = 0x212A ∧ run.last = 0x212A) ∨ 0x80 ≤ run.first + run.shift := by
  decide +kernel

/-- An expansion has a character from behind ASCII. -/
theorem lowerExpansions_avoid_ascii :
    ∀ expansion ∈ lowerExpansions, ∃ n ∈ expansion.2, 0x80 ≤ n := by
  decide +kernel

end CaseTable

/-- One other character has a letter of words in lower case: the sign of the kelvin. -/
theorem isWordChar_or_kelvinSign (h : ∀ d ∈ lowerChar c, isWordChar d = true) :
    isWordChar c = true ∨ c = kelvinSign := by
  unfold lowerChar mapCase at h
  cases hform : CaseTable.lowerExpansions.lookup c.toNat with
  | some form =>
    rcases List.lookup_eq_some_iff.1 hform with ⟨before, behind, htable, -⟩
    rcases CaseTable.lowerExpansions_avoid_ascii (c.toNat, form) (by simp [htable]) with
      ⟨n, hn, hbehind⟩
    simp only [hform, List.forall_mem_map] at h
    have hword := h n hn
    rw [isWordChar_ofNat_of_le hbehind] at hword
    cases hword
  | none =>
    simp only [hform, List.mem_singleton, forall_eq] at h
    by_cases hshift : CaseRun.shiftAt CaseTable.lowerRuns c.toNat = 0
    · -- Moved by nothing, the character is its own lower-case form.
      left
      simpa [hshift] using h
    · rcases CaseRun.exists_of_shiftAt_ne_zero hshift with ⟨run, hrun, hcovers, heq⟩
      simp only [CaseRun.covers, Bool.and_eq_true, decide_eq_true_eq] at hcovers
      rcases CaseTable.lowerRuns_avoid_ascii run hrun with hcapital | hkelvin | hbehind
      · left
        apply Go.isWordChar_iff_toNat.2
        omega
      · right
        have hvalue : c.toNat = 0x212A := by omega
        rw [kelvinSign, ← hvalue, Char.ofNat_toNat]
      · rw [isWordChar_ofNat_of_le (by omega)] at h
        cases h

/-! ## Clusters -/

theorem isPlain_of_isWordChar (h : isWordChar c = true) : IsPlain c := by
  have htable : ∀ n < 0x80, isWordChar (Char.ofNat n) = true → IsPlain (Char.ofNat n) := by
    decide +kernel
  simpa using htable c.toNat (toNat_lt_of_isWordChar h) (by simpa using h)

theorem isPlain_kelvinSign : IsPlain kelvinSign := by
  decide +kernel

/-- So a character whose lower case is made of letters of words forms a cluster of its own. -/
theorem isPlain_of_lowerChar (h : ∀ d ∈ lowerChar c, isWordChar d = true) : IsPlain c := by
  rcases isWordChar_or_kelvinSign h with hword | rfl
  · exact isPlain_of_isWordChar hword
  · exact isPlain_kelvinSign

/-- An underscore that is a cluster of its own would be left out. -/
theorem isSmall_of_mem_lowerChar {d : Char} (h : ∀ d ∈ lowerChar c, isWordChar d = true)
    (hc : isSeparator [c] = false) (hd : d ∈ lowerChar c) : isSmall d = true := by
  rcases isWordChar_or_kelvinSign h with hword | rfl
  · have hunderscore : c ≠ '_' := by
      rintro rfl
      cases hc
    have halphanum : c.isAlphanum = true := by simpa [isWordChar, hunderscore] using hword
    rw [lowerChar_of_ascii (toNat_lt_of_isWordChar hword), List.mem_singleton] at hd
    rw [hd]
    exact isSmall_toLower halphanum
  · have hletter : lowerChar kelvinSign = ['k'] := by decide +kernel
    rw [hletter, List.mem_singleton] at hd
    rw [hd]
    rfl

/-! ## Texts -/

/-- A sigma has no lower case that is a letter of words, at an end or elsewhere. -/
theorem sigma_not_mem_of_lowerAfter {before : Text}
    (h : ∀ d ∈ lowerAfter before t, isWordChar d = true) : 'Σ' ∉ t := by
  induction t generalizing before with
  | nil => exact List.not_mem_nil
  | cons c rest ih =>
    rw [lowerAfter, List.forall_mem_append] at h
    rcases h with ⟨hfirst, hrest⟩
    intro hmem
    rcases List.mem_cons.1 hmem with rfl | hmem
    · -- Whether the word ends here or not, the form is a Greek letter.
      have hsmall := hfirst (lowerSigma before rest) (by simp)
      unfold lowerSigma at hsmall
      split at hsmall <;> cases hsmall
    · exact ih hrest hmem

/-- So there is no sigma in a text whose flat case is made of letters of words. -/
theorem sigma_not_mem_of_flatCase (h : ∀ d ∈ flatCase t, isWordChar d = true) :
    'Σ' ∉ (keptClusters t).flatten := by
  rw [← flatten_words]
  intro hmem
  rcases List.mem_flatten.1 hmem with ⟨word, hword, hsigma⟩
  have hlower : ∀ d ∈ lowerAfter [] word, isWordChar d = true := by
    intro d hd
    exact h d (List.mem_flatMap.2 ⟨word, hword, hd⟩)
  exact sigma_not_mem_of_lowerAfter hlower hsigma

/-- Flat case of ASCII letters, digits and underscores has neither capitals nor underscores. -/
theorem isSmall_of_mem_flatCase (h : ∀ d ∈ flatCase t, isWordChar d = true) :
    ∀ d ∈ flatCase t, isSmall d = true := by
  have hflat := flatCase_eq_flatMap (sigma_not_mem_of_flatCase h)
  rw [hflat] at h ⊢
  intro d hd
  rcases List.mem_flatMap.1 hd with ⟨c, hmem, hd⟩
  rcases List.mem_flatten.1 hmem with ⟨cluster, hcluster, hc⟩
  rcases List.mem_filter.1 hcluster with ⟨hofText, hkept⟩
  have hlower : ∀ c ∈ cluster, ∀ d ∈ lowerChar c, isWordChar d = true := by
    intro c hc d hd
    exact h d (List.mem_flatMap.2 ⟨c, List.mem_flatten.2 ⟨cluster, hcluster, hc⟩, hd⟩)
  -- The characters are plain, so this one makes up its cluster.
  rcases exists_eq_singleton_of_isPlain hofText fun c hc => isPlain_of_lowerChar (hlower c hc) with
    ⟨single, rfl⟩
  rw [List.mem_singleton] at hc
  subst hc
  exact isSmall_of_mem_lowerChar (hlower c (by simp)) (by simpa using hkept) hd

end Text

end ErrorCatalog
