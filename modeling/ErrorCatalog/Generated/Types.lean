import ErrorCatalog.Generated.File
/-!
# The file of types

Declares the error value, the payload that clients get, and what one can do with an error. For
GoFrame the file has two blocks more: the imports of that framework's error packages and the
conversion of an error into one of the framework's own.
-/

namespace ErrorCatalog

namespace Generated

/-- What an error value offers beyond the common operations. -/
inductive ErrorFlavor where
  | plain
  -- A conversion into an error of GoFrame.
  | goFrame
  deriving DecidableEq, Repr

namespace TypesFile

def path : Text :=
  "./types.go"

def imports : List Text :=
  ["import (",
    "\t\"errors\"",
    "\t\"fmt\"",
    "\t\"net/http\""]

def goFrameImports : List Text :=
  ["",
    "\t\"github.com/gogf/gf/v2/errors/gcode\"",
    "\t\"github.com/gogf/gf/v2/errors/gerror\""]

def importsEnd : List Text :=
  [")",
    ""]

def errorType : List Text :=
  ["// Error is a classified error code. HttpCode 0 marks an internal error,",
    "// which clients only ever see with the default message.",
    "type Error struct \x7b",
    "\tCode     int    `json:\"code\"`",
    "\tMsg      string `json:\"msg\"`",
    "\tHttpCode int    `json:\"-\"`",
    "\tcause    error",
    "\x7d",
    ""]

def bodyType : List Text :=
  ["// Body is the JSON payload written to clients.",
    "type Body struct \x7b",
    "\tCode int    `json:\"code\"`",
    "\tMsg  string `json:\"msg\"`",
    "\x7d",
    ""]

def constructor : List Text :=
  ["// New returns an error value for code.",
    "func New(code int, msg string, httpCode int) *Error \x7b",
    "\treturn &Error\x7bCode: code, Msg: msg, HttpCode: httpCode\x7d",
    "\x7d",
    ""]

def errorMethod : List Text :=
  ["func (e *Error) Error() string \x7b",
    "\tif e.cause != nil \x7b",
    "\t\treturn fmt.Sprintf(\"code=%d msg=%s cause=%v\", e.Code, e.Msg, e.cause)",
    "\t\x7d",
    "\treturn fmt.Sprintf(\"code=%d msg=%s\", e.Code, e.Msg)",
    "\x7d",
    ""]

def internalMethod : List Text :=
  ["// IsInternal reports whether the error is hidden behind the default message.",
    "func (e *Error) IsInternal() bool \x7b",
    "\treturn e.HttpCode == 0",
    "\x7d",
    ""]

def statusMethod : List Text :=
  ["// Status is the HTTP status to respond with. Internal errors map to 500.",
    "func (e *Error) Status() int \x7b",
    "\tif e.IsInternal() \x7b",
    "\t\treturn http.StatusInternalServerError",
    "\t\x7d",
    "\treturn e.HttpCode",
    "\x7d",
    ""]

def bodyMethod : List Text :=
  ["// Body returns the client payload for e.",
    "func (e *Error) Body() Body \x7b",
    "\treturn Body\x7bCode: e.Code, Msg: e.Msg\x7d",
    "\x7d",
    ""]

def wrapMethod : List Text :=
  ["// Wrap returns a copy of e carrying cause.",
    "func (e *Error) Wrap(cause error) *Error \x7b",
    "\tc := *e",
    "\tc.cause = cause",
    "\treturn &c",
    "\x7d",
    ""]

def unwrapMethod : List Text :=
  ["func (e *Error) Unwrap() error \x7b",
    "\treturn e.cause",
    "\x7d",
    ""]

/-- Equality of errors by their codes. -/
def isMethod : List Text :=
  ["// Is matches any *Error with the same code, so wrapped copies compare equal.",
    "func (e *Error) Is(target error) bool \x7b",
    "\tt, ok := target.(*Error)",
    "\treturn ok && t.Code == e.Code",
    "\x7d",
    ""]

/-- The declarations from the end of the imports to the place of the conversion. -/
def declarations : List Text :=
  importsEnd ++ errorType ++ bodyType ++ constructor
    ++ errorMethod ++ internalMethod ++ statusMethod
    ++ bodyMethod ++ wrapMethod ++ unwrapMethod ++ isMethod

def goFrameConversion : List Text :=
  ["// ToGError converts e into a GoFrame error carrying the same code.",
    "func (e *Error) ToGError() error \x7b",
    "\tcode := gcode.New(e.Code, e.Msg, nil)",
    "\tif e.cause != nil \x7b",
    "\t\treturn gerror.WrapCode(code, e.cause, e.Msg)",
    "\t\x7d",
    "\treturn gerror.NewCode(code, e.Msg)",
    "\x7d",
    ""]

/-- The declarations behind the place of the conversion. -/
def lookUp : List Text :=
  ["// FromError finds an *Error in err's chain.",
    "func FromError(err error) (*Error, bool) \x7b",
    "\tvar e *Error",
    "\tif errors.As(err, &e) \x7b",
    "\t\treturn e, true",
    "\t\x7d",
    "\treturn nil, false",
    "\x7d"]

def lines (package : Text) (flavor : ErrorFlavor) : List Text :=
  match flavor with
  | .plain => preamble package ++ imports ++ declarations ++ lookUp
  | .goFrame =>
      preamble package ++ imports ++ goFrameImports ++ declarations ++ goFrameConversion ++ lookUp

def content (package : Text) (flavor : ErrorFlavor) : Text :=
  Text.unlines (lines package flavor)

end TypesFile

end Generated

end ErrorCatalog
