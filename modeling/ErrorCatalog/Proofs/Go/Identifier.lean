import ErrorCatalog.Go.Identifier
import ErrorCatalog.Text.Blank
/-!
# Characters of identifiers

The characters of Go identifiers by their code points, and what they are not: neither blanks nor
controls. The digits are among them.
-/

namespace ErrorCatalog

namespace Go

variable {c : Char} {t : Text}

/-- The characters of words, by their numbers. -/
theorem isWordChar_iff_toNat :
    isWordChar c = true ↔
      (0x30 ≤ c.toNat ∧ c.toNat ≤ 0x39) ∨ (0x41 ≤ c.toNat ∧ c.toNat ≤ 0x5A)
        ∨ (0x61 ≤ c.toNat ∧ c.toNat ≤ 0x7A) ∨ c.toNat = 0x5F := by
  have hunderscore : c = '_' ↔ c.toNat = 0x5F := by
    constructor
    · rintro rfl
      rfl
    · intro h
      rw [← Char.ofNat_toNat c, h]
  -- The classes of the core library are comparisons of values, which become those of numbers.
  have halpha : c.isAlpha = (c.isUpper || c.isLower) := rfl
  have hupper : c.isUpper = decide ('A'.val ≤ c.val ∧ c.val ≤ 'Z'.val) := rfl
  have hlower : c.isLower = (decide ('a'.val ≤ c.val) && decide (c.val ≤ 'z'.val)) := rfl
  have hvalue : c.toNat = c.val.toNat := rfl
  simp only [isWordChar, Char.isAlphanum, halpha, hupper, hlower, Char.isDigit, Bool.or_eq_true,
    Bool.and_eq_true, decide_eq_true_eq, hunderscore, ge_iff_le, UInt32.le_iff_toNat_le]
  simp only [Char.reduceVal, UInt32.reduceToNat, hvalue]
  omega

theorem isWordChar_of_isDigit (h : c.isDigit = true) : isWordChar c = true := by
  simp [isWordChar, Char.isAlphanum, h]

/-- No character of a word is blank, which keeps trimming away from words. -/
theorem isBlank_of_isWordChar (h : isWordChar c = true) : Text.isBlank c = false := by
  have hrange := isWordChar_iff_toNat.1 h
  simp [Text.isBlank, Text.blankRanges, Text.Ranges.contains]
  omega

theorem isSpace_of_isWordChar (h : isWordChar c = true) : Text.isSpace c = false := by
  cases hspace : Text.isSpace c with
  | false => rfl
  | true => rw [← isBlank_of_isWordChar h, Text.isBlank_of_isSpace hspace]

/-- No character of a word is a control character. -/
theorem isControl_of_isWordChar (h : isWordChar c = true) : Text.isControl c = false := by
  have hrange := isWordChar_iff_toNat.1 h
  simp [Text.isControl]
  omega

/-- No digit is a blank. -/
theorem isSpace_of_isDigit (h : c.isDigit = true) : Text.isSpace c = false :=
  isSpace_of_isWordChar (isWordChar_of_isDigit h)

theorem isBlank_of_isDigit (h : c.isDigit = true) : Text.isBlank c = false :=
  isBlank_of_isWordChar (isWordChar_of_isDigit h)

theorem isWordChar_of_isSpace (h : Text.isSpace c = true) : isWordChar c = false := by
  cases hword : isWordChar c with
  | false => rfl
  | true => rw [← isSpace_of_isWordChar hword, h]

theorem isDigit_of_isSpace (h : Text.isSpace c = true) : c.isDigit = false := by
  cases hdigit : c.isDigit with
  | false => rfl
  | true => rw [← isSpace_of_isDigit hdigit, h]

/-- A character of a word differs from all that are not. -/
theorem ne_of_isWordChar {d : Char} (h : isWordChar c = true) (hd : isWordChar d = false) :
    c ≠ d := by
  rintro rfl
  rw [h] at hd
  cases hd

theorem ne_nil_of_isIdentifier (h : isIdentifier t = true) : t ≠ [] := by
  rintro rfl
  cases h

/-- An identifier is made of word characters. -/
theorem isWordChar_of_isIdentifier (h : isIdentifier t = true) : ∀ c ∈ t, isWordChar c = true := by
  cases t with
  | nil => cases h
  | cons first rest =>
    simp only [isIdentifier, Bool.and_eq_true, Bool.or_eq_true, decide_eq_true_eq,
      List.all_eq_true] at h
    intro c hc
    rcases List.mem_cons.1 hc with rfl | hrest
    · rcases h.1.1 with hletter | rfl
      · simp [isWordChar, Char.isAlphanum, hletter]
      · rfl
    · exact h.1.2 c hrest

end Go

end ErrorCatalog
