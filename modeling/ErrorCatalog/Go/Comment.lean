import ErrorCatalog.Text.Blank
/-!
# Go line comments

Free text behind `//` must not leave its line. Every control character becomes a space, so no line
feed is left, and the blanks at the ends go.
-/

namespace ErrorCatalog

namespace Go

def spaceForControl (c : Char) : Char :=
  if Text.isControl c then ' ' else c

/-- Free text made fit to stand behind `//`. -/
def lineComment (t : Text) : Text :=
  Text.trimBlank (t.map spaceForControl)

end Go

end ErrorCatalog
