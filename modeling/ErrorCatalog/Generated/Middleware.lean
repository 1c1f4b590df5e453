import ErrorCatalog.Generated.Handler
/-!
# The error middleware for GoFrame

Declares the middleware that turns the error of a request into the JSON body of its code. The
comment above it shows how to put the middleware to use, and how to import the package when the
path to import it from is known.
-/

namespace ErrorCatalog

namespace Generated

namespace MiddlewareFile

def path : Text :=
  "./middleware.go"

def opening : List Text :=
  ["import (",
    "\t\"net/http\"",
    "",
    "\t\"github.com/gogf/gf/v2/errors/gerror\"",
    "\t\"github.com/gogf/gf/v2/net/ghttp\"",
    ")",
    "",
    "// ErrorMiddleware converts any handler error into the JSON body of its",
    "// error code. Register it on the server or a route group:",
    "//"]

def registration (package : Text) : Text :=
  "//\ts.Use(" ++ package ++ ".ErrorMiddleware)"

def middleware : List Text :=
  ["//",
    "// Errors raised with ToGError are mapped back through their gcode.",
    "func ErrorMiddleware(r *ghttp.Request) \x7b",
    "\tr.Middleware.Next()",
    "",
    "\terr := r.GetError()",
    "\tif err == nil \x7b",
    "\t\treturn",
    "\t\x7d",
    "",
    "\te, ok := FromError(err)",
    "\tif !ok \x7b",
    "\t\te, ok = FromCode(gerror.Code(err).Code())",
    "\t\x7d",
    "\tif !ok \x7b",
    "\t\te = New(http.StatusInternalServerError, DefaultMessage, 0)",
    "\t\x7d",
    "\tif e.IsInternal() \x7b",
    "\t\tr.Server.Logger().Errorf(r.Context(), \"internal error: %+v\", err)",
    "\t\x7d",
    "",
    "\tr.Response.ClearBuffer()",
    "\tr.Response.WriteHeader(e.Status())",
    "\tr.Response.WriteJson(e.Body())",
    "\x7d"]

def lines (package importPath : Text) : List Text :=
  preamble package ++ opening ++ importNote package importPath ++ registration package :: middleware

def content (package importPath : Text) : Text :=
  Text.unlines (lines package importPath)

end MiddlewareFile

end Generated

end ErrorCatalog
