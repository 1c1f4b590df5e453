import ErrorCatalog.ProjectFile.Fault
/-!
# Characters with their places

The layout of a project file carries meaning, so its text is read as a sequence of glyphs:
characters that know their line and column. The three line ends of ASCII and the next-line character
all become a line feed; the Unicode line and paragraph separators end lines too but stay what they
are.
-/

namespace ErrorCatalog

namespace ProjectFile

structure Glyph where
  char : Char
  -- The number of lines before its own.
  line : Nat
  -- The number of characters before it in its line.
  column : Nat
  deriving DecidableEq, Repr

/-! ## Classes -/

def nextLine : Char :=
  Char.ofNat 0x85

def lineSeparator : Char :=
  Char.ofNat 0x2028

def paragraphSeparator : Char :=
  Char.ofNat 0x2029

/-- The mark that tells the order of bytes in a file; any line may begin with it. -/
def byteOrderMark : Char :=
  Char.ofNat 0xFEFF

def isAllowed (c : Char) : Bool :=
  let n := c.toNat
  n = 0x09 || n = 0x0A || n = 0x0D || (0x20 ≤ n && n ≤ 0x7E) || n = 0x85 || (0xA0 ≤ n && n ≤ 0xD7FF)
    || (0xE000 ≤ n && n ≤ 0xFFFD) || 0x10000 ≤ n

def isBreak (c : Char) : Bool :=
  c = '\n' || c = lineSeparator || c = paragraphSeparator

def isBlank (c : Char) : Bool :=
  c = ' ' || c = '\t'

def isGap (c : Char) : Bool :=
  isBlank c || isBreak c

/-- The characters of names: ASCII letters and digits, underscore and hyphen. -/
def isNameChar (c : Char) : Bool :=
  c.isAlphanum || c = '_' || c = '-'

/-! ## Sequences of glyphs -/

def glyphsFrom (line column : Nat) : Text → List Glyph
  | [] => []
  | '\r' :: '\n' :: rest => ⟨'\n', line, column⟩ :: glyphsFrom (line + 1) 0 rest
  | c :: rest =>
      if c = '\r' || c = nextLine then ⟨'\n', line, column⟩ :: glyphsFrom (line + 1) 0 rest
      else if isBreak c then ⟨c, line, column⟩ :: glyphsFrom (line + 1) 0 rest
      else ⟨c, line, column⟩ :: glyphsFrom line (column + 1) rest

/-- Whether the first glyph has a character that satisfies `p`. -/
def headIs (p : Char → Bool) (glyphs : List Glyph) : Bool :=
  glyphs.head?.any fun glyph => p glyph.char

/-- Whether a part of the file can end here: at a blank, a line end or the end of the file. -/
def atGap (glyphs : List Glyph) : Bool :=
  glyphs.isEmpty || headIs isGap glyphs

/-- Whether three times the same sign stands at the beginning of a line and nothing right behind. -/
def atMarker (sign : Char) : List Glyph → Bool
  | a :: b :: c :: rest =>
      a.column = 0 && a.char = sign && b.char = sign && c.char = sign && atGap rest
  | _ => false

/-- Whether a marker begins or ends a document here. -/
def atDocumentMarker (glyphs : List Glyph) : Bool :=
  atMarker '-' glyphs || atMarker '.' glyphs

def dropLine (glyphs : List Glyph) : List Glyph :=
  glyphs.dropWhile fun glyph => !isBreak glyph.char

def dropBlanks (glyphs : List Glyph) : List Glyph :=
  glyphs.dropWhile fun glyph => isBlank glyph.char

/-- The leading glyphs that satisfy `p`, as text, and the rest. -/
def span (p : Char → Bool) (glyphs : List Glyph) : Text × List Glyph :=
  ((glyphs.takeWhile fun glyph => p glyph.char).map Glyph.char,
    glyphs.dropWhile fun glyph => p glyph.char)

end ProjectFile

end ErrorCatalog
