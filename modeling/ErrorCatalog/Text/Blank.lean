import ErrorCatalog.Text.Ranges
/-!
# Blanks and controls

Three classes of characters that have no ink of their own.

* `isSpace`: the five blanks of ASCII that a schema line may hold between its parts. The vertical
  tab is not one of them.
* `isBlank`: the Unicode property `White_Space`, used wherever free text is trimmed.
* `isControl`: the Unicode category `Cc`.
-/

namespace ErrorCatalog

namespace Text

/-- Space, tab, line feed, form feed and carriage return. -/
def isSpace (c : Char) : Bool :=
  c = ' ' || c = '\t' || c = '\n' || c = '\x0c' || c = '\r'

/-- The code points with the property `White_Space`. -/
def blankRanges : Ranges :=
  [(0x0009, 0x000D), (0x0020, 0x0020), (0x0085, 0x0085), (0x00A0, 0x00A0), (0x1680, 0x1680),
    (0x2000, 0x200A), (0x2028, 0x2029), (0x202F, 0x202F), (0x205F, 0x205F), (0x3000, 0x3000)]

def isBlank (c : Char) : Bool :=
  blankRanges.contains c.toNat

/-- Whether a character is a control character, of category `Cc`. -/
def isControl (c : Char) : Bool :=
  c.toNat < 0x20 || (0x7F ≤ c.toNat && c.toNat < 0xA0)

def trimBlank (t : Text) : Text :=
  trim isBlank t

/-- The ASCII blanks are blanks. -/
theorem isBlank_of_isSpace {c : Char} (h : isSpace c = true) : isBlank c = true := by
  simp only [isSpace, Bool.or_eq_true, decide_eq_true_eq] at h
  rcases h with (((rfl | rfl) | rfl) | rfl) | rfl <;> rfl

end Text

end ErrorCatalog
