import ErrorCatalog.Proofs.Go.Identifier
import ErrorCatalog.Text.Case
import Mathlib
/-!
# Letter case within ASCII

Below U+0080 the full case mappings are the simple ones of ASCII: no character becomes several, and
none of them is a sigma, so that texts are mapped character by character. Digits have no case.
-/

namespace ErrorCatalog

namespace Text

variable {c : Char} {t : Text}

/-- On the first 128 characters the tables of small letters agree with the language of the
proofs. -/
theorem lowerChar_of_ascii (h : c.toNat < 0x80) : lowerChar c = [c.toLower] := by
  have htable : ∀ n < 0x80, lowerChar (Char.ofNat n) = [(Char.ofNat n).toLower] := by
    decide +kernel
  simpa using htable c.toNat h

theorem upperChar_of_ascii (h : c.toNat < 0x80) : upperChar c = [c.toUpper] := by
  have htable : ∀ n < 0x80, upperChar (Char.ofNat n) = [(Char.ofNat n).toUpper] := by
    decide +kernel
  simpa using htable c.toNat h

/-- Lower case of such a text is taken character by character. -/
theorem lower_of_ascii (h : ∀ c ∈ t, c.toNat < 0x80) : lower t = t.map Char.toLower := by
  have hsigma : 'Σ' ∉ t := by
    intro hmem
    exact absurd (h 'Σ' hmem) (by decide)
  calc
    lower t = t.flatMap lowerChar := lowerAfter_eq_flatMap hsigma []
    _ = t.flatMap fun c => [c.toLower] :=
      List.flatMap_congr fun c hc => lowerChar_of_ascii (h c hc)
    _ = t.map Char.toLower := List.map_eq_flatMap.symm

/-- The characters of words are among the first 128. -/
theorem toNat_lt_of_isWordChar (h : Go.isWordChar c = true) : c.toNat < 0x80 := by
  have hrange := Go.isWordChar_iff_toNat.1 h
  omega

theorem isAlpha_of_isDigit (h : c.isDigit = true) : c.isAlpha = false := by
  have htable : ∀ n < 0x80, (Char.ofNat n).isDigit = true → (Char.ofNat n).isAlpha = false := by
    decide
  have hascii := toNat_lt_of_isWordChar (Go.isWordChar_of_isDigit h)
  simpa using htable c.toNat hascii (by simpa using h)

theorem isUpper_of_isDigit (h : c.isDigit = true) : c.isUpper = false := by
  have halpha := isAlpha_of_isDigit h
  simp only [Char.isAlpha, Bool.or_eq_false_iff] at halpha
  exact halpha.1

theorem isLower_of_isDigit (h : c.isDigit = true) : c.isLower = false := by
  have halpha := isAlpha_of_isDigit h
  simp only [Char.isAlpha, Bool.or_eq_false_iff] at halpha
  exact halpha.2

/-! ## Small letters and digits -/

def isSmall (c : Char) : Bool :=
  c.isLower || c.isDigit

/-- Letters and digits in lower case are small. -/
theorem isSmall_toLower (h : c.isAlphanum = true) : isSmall c.toLower = true := by
  simp only [Char.isAlphanum, Bool.or_eq_true] at h
  rcases h with halpha | hdigit
  · simp [isSmall, halpha]
  · have hlower : c.toLower = c :=
      Char.toLower_eq_of_not_isUpper (by simp [isUpper_of_isDigit hdigit])
    simp [isSmall, hlower, hdigit]

theorem isUpper_of_isSmall (h : isSmall c = true) : c.isUpper = false := by
  simp only [isSmall, Bool.or_eq_true] at h
  rcases h with hlower | hdigit
  · simpa using Char.not_isUpper_of_isLower hlower
  · exact isUpper_of_isDigit hdigit

/-- Small characters are in lower case already. -/
theorem toLower_of_isSmall (h : isSmall c = true) : c.toLower = c :=
  Char.toLower_eq_of_not_isUpper (by simp [isUpper_of_isSmall h])

theorem isAlphanum_of_isSmall (h : isSmall c = true) : c.isAlphanum = true := by
  simp only [isSmall, Bool.or_eq_true] at h
  rcases h with hlower | hdigit
  · simp [Char.isAlphanum, Char.isAlpha, hlower]
  · simp [Char.isAlphanum, hdigit]

theorem isAlphanum_toUpper_of_isSmall (h : isSmall c = true) : c.toUpper.isAlphanum = true := by
  simp only [isSmall, Bool.or_eq_true] at h
  rcases h with hlower | hdigit
  · simp [Char.isAlphanum, Char.isAlpha, hlower]
  · have hupper : c.toUpper = c :=
      Char.toUpper_eq_of_not_isLower (by simp [isLower_of_isDigit hdigit])
    simp [Char.isAlphanum, hupper, hdigit]

/-- The capital of a small letter or a digit tells which one it is. -/
theorem toUpper_inj_of_isSmall {d : Char} (hc : isSmall c = true) (hd : isSmall d = true)
    (h : c.toUpper = d.toUpper) : c = d := by
  calc
    c = c.toLower := (toLower_of_isSmall hc).symm
    _ = c.toUpper.toLower := (Char.toLower_toUpper_eq_toLower c).symm
    _ = d.toUpper.toLower := by rw [h]
    _ = d.toLower := Char.toLower_toUpper_eq_toLower d
    _ = d := toLower_of_isSmall hd

end Text

end ErrorCatalog
