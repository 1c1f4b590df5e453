import ErrorCatalog.Text.Blank
import ErrorCatalog.Text.Words
/-!
# Package names from module paths

The name in a package clause comes from the last segment of a module path, put in lower case with
its words run together: `github.com/acme/my-app` names the package `myapp`. Whether the result is a
legal name is decided elsewhere.
-/

namespace ErrorCatalog

namespace Go

/-- The last segment of a module path, blanks at its ends and slashes at its end left out before. -/
def lastSegment (path : Text) : Text :=
  Text.afterLast (· = '/') (Text.trimEnd (· = '/') (Text.trimBlank path))

def packageName (path : Text) : Text :=
  Text.flatCase (lastSegment path)

end Go

end ErrorCatalog
