import ErrorCatalog.Text.Digit
/-!
# Numerals

`Text.readWord?` accepts any non-empty run of ASCII digits of a value that a signed word holds, with
any number of leading zeros, and reads back what `Text.ofNat` writes.
-/

namespace ErrorCatalog

namespace Text

variable {digits : Text} {n : Nat}

/-- A non-empty run of ASCII digits. -/
structure IsNumeral (digits : Text) : Prop where
  ne_nil : digits ≠ []
  isDigit : ∀ c ∈ digits, c.isDigit = true

/-- The value of a numeral. -/
def numeralValue (digits : Text) : Nat :=
  Nat.ofDigitChars 10 digits 0

/-- A word is read exactly from the digits of a number below the limit. -/
theorem readWord?_eq_some_iff :
    readWord? digits = some n ↔
      IsNumeral digits ∧ numeralValue digits = n ∧ n < wordLimit := by
  constructor
  · intro h
    have hlt := lt_wordLimit_of_readWord? h
    simp only [readWord?] at h
    split at h
    · cases h
    · next hdigits =>
      -- The two refusals are of texts that are no numeral and of values beyond the limit.
      simp only [Bool.or_eq_true, not_or, Bool.not_eq_true', Bool.not_eq_false] at hdigits
      split at h
      · cases h
        exact ⟨⟨by simpa using hdigits.1, by simpa using hdigits.2⟩, rfl, hlt⟩
      · cases h
  · rintro ⟨⟨hne, hdigits⟩, rfl, hlt⟩
    have hall : digits.all Char.isDigit = true := by simpa using hdigits
    simp only [numeralValue] at hlt
    simp [readWord?, numeralValue, hne, hall, hlt]

/-! ## Written numerals -/

theorem isNumeral_ofNat (n : Nat) : IsNumeral (ofNat n) where
  ne_nil := Nat.toDigits_ne_nil
  isDigit _ hc := Nat.isDigit_of_mem_toDigits (by decide) (by decide) hc

/-- The digits of a number have its value. -/
theorem numeralValue_ofNat (n : Nat) : numeralValue (ofNat n) = n :=
  Nat.ofDigitChars_ten_toDigits

/-- So a number below the limit is read back from its digits. -/
theorem readWord?_ofNat (h : n < wordLimit) : readWord? (ofNat n) = some n :=
  readWord?_eq_some_iff.2 ⟨isNumeral_ofNat n, numeralValue_ofNat n, h⟩

theorem ofInt_natCast (n : Nat) : ofInt n = ofNat n := rfl

/-! ## Digits of any script -/

theorem isDigit_of_isAsciiDigit {c : Char} (h : c.isDigit = true) : isDigit c = true := by
  have hrange := Char.isDigit_iff_toNat.1 h
  have hlow : ¬ c.toNat < 0x30 := Nat.not_lt.2 hrange.1
  have hhigh : c.toNat ≤ 0x39 := hrange.2
  simp only [isDigit, digitRanges, Ranges.contains, if_neg hlow, if_pos hhigh]

end Text

end ErrorCatalog
