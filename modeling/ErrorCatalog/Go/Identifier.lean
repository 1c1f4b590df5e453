import ErrorCatalog.Text.Basic
/-!
# Go identifiers

The identifiers that this library lets into generated source: ASCII ones that are not reserved
words. Go itself allows letters of other scripts; none of them is ever generated.
-/

namespace ErrorCatalog

namespace Go

def keywords : List Text :=
  ["break", "case", "chan", "const", "continue", "default", "defer", "else", "fallthrough", "for",
    "func", "go", "goto", "if", "import", "interface", "map", "package", "range", "return",
    "select", "struct", "switch", "type", "var"]

/-- An ASCII letter or digit or the underscore. -/
def isWordChar (c : Char) : Bool :=
  c.isAlphanum || c = '_'

/-- Whether a text is an ASCII identifier of Go: a letter or underscore, then letters, digits and
underscores, and no reserved word. -/
def isIdentifier : Text → Bool
  | [] => false
  | c :: rest => (c.isAlpha || c = '_') && rest.all isWordChar && !keywords.contains (c :: rest)

end Go

end ErrorCatalog
