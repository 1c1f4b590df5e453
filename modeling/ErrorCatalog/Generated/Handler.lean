import ErrorCatalog.Generated.File
import ErrorCatalog.Go.Literal
/-!
# The error handler for go-zero

Declares the function that go-zero calls with the error of a request. The comment above it shows how
to register the function, with the import of the package when its import path is known.
-/

namespace ErrorCatalog

namespace Generated

/-- The lines of a comment that show the import of the package, none when its path is empty. -/
def importNote (package importPath : Text) : List Text :=
  if importPath.isEmpty then []
  else ["//\timport " ++ package ++ " " ++ Go.stringLiteral importPath, "//"]

namespace HandlerFile

def path : Text :=
  "./handler.go"

def opening : List Text :=
  ["import (",
    "\t\"context\"",
    "\t\"net/http\"",
    "",
    "\t\"github.com/zeromicro/go-zero/core/logx\"",
    ")",
    "",
    "// ErrorHandler maps err onto a status code and JSON body. Register it once",
    "// at startup:",
    "//"]

def registration (package : Text) : Text :=
  "//\thttpx.SetErrorHandlerCtx(" ++ package ++ ".ErrorHandler)"

def handler : List Text :=
  ["//",
    "// Internal errors are logged with their cause and answered with DefaultMessage.",
    "func ErrorHandler(ctx context.Context, err error) (int, any) \x7b",
    "\te, ok := FromError(err)",
    "\tif !ok \x7b",
    "\t\tlogx.WithContext(ctx).Errorf(\"unclassified error: %v\", err)",
    "\t\treturn http.StatusInternalServerError, Body\x7bCode: http.StatusInternalServerError, Msg: DefaultMessage\x7d",
    "\t\x7d",
    "",
    "\tif e.IsInternal() \x7b",
    "\t\tlogx.WithContext(ctx).Errorf(\"internal error: %v\", e)",
    "\t\x7d",
    "\treturn e.Status(), e.Body()",
    "\x7d"]

def lines (package importPath : Text) : List Text :=
  preamble package ++ opening ++ importNote package importPath ++ registration package :: handler

def content (package importPath : Text) : Text :=
  Text.unlines (lines package importPath)

end HandlerFile

end Generated

end ErrorCatalog
