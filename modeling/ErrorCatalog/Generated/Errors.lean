import ErrorCatalog.Entry.Basic
import ErrorCatalog.Generated.File
import ErrorCatalog.Go.Comment
import ErrorCatalog.Go.Literal
import ErrorCatalog.Text.Digit
/-!
# The file of errors

Declares the message that stands for internal errors, one error value for each entry in the order of
the entries, and the table from codes to these values. A comment above a value says what the entry
is; the comment of an internal entry appears there and nowhere else.
-/

namespace ErrorCatalog

namespace Generated

namespace ErrorsFile

def path : Text :=
  "./errors_gen.go"

/-! ## Single entries -/

def noteLine (e : Entry) : Text :=
  let note := Go.lineComment e.description
  if e.isInternal then
    if note.isEmpty then "\t// " ++ e.identifier ++ " is internal."
    else "\t// " ++ e.identifier ++ ": " ++ note ++ " (internal)"
  else "\t// " ++ e.identifier ++ ": " ++ note ++ " (HTTP " ++ Text.ofInt e.httpStatus ++ ")"

/-- The message that clients get for an entry. -/
def clientMessage (defaultMessage : Text) (e : Entry) : Text :=
  if e.isInternal then defaultMessage else e.httpMessage

def declarationLine (defaultMessage : Text) (e : Entry) : Text :=
  "\t" ++ e.identifier ++ " = New(" ++ Text.ofInt e.code ++ ", "
    ++ Go.stringLiteral (clientMessage defaultMessage e) ++ ", " ++ Text.ofInt e.httpStatus ++ ")"

def tableLine (e : Entry) : Text :=
  "\t" ++ Text.ofInt e.code ++ ": " ++ e.identifier ++ ","

/-! ## The file -/

def messageLines (defaultMessage : Text) : List Text :=
  ["// DefaultMessage is what clients see for every internal error.",
    "const DefaultMessage = " ++ Go.stringLiteral defaultMessage,
    ""]

def groupOpening : Text :=
  "var ("

def tableOpening : Text :=
  "var codes = map[int]*Error\x7b"

/-- The values of the entries and the table. -/
def entryLines (defaultMessage : Text) (entries : List Entry) : List Text :=
  groupOpening :: entries.flatMap (fun e => [noteLine e, declarationLine defaultMessage e])
    ++ [[')'], [], tableOpening] ++ entries.map tableLine ++ [['\x7d'], []]

def emptyTable : List Text :=
  ["var codes = map[int]*Error\x7b\x7d",
    ""]

def lookUp : List Text :=
  ["// FromCode returns the error declared for code.",
    "func FromCode(code int) (*Error, bool) \x7b",
    "\te, ok := codes[code]",
    "\treturn e, ok",
    "\x7d"]

def lines (package defaultMessage : Text) (entries : List Entry) : List Text :=
  preamble package ++ messageLines defaultMessage
    ++ (if entries.isEmpty then emptyTable else entryLines defaultMessage entries) ++ lookUp

def content (package defaultMessage : Text) (entries : List Entry) : Text :=
  Text.unlines (lines package defaultMessage entries)

end ErrorsFile

end Generated

end ErrorCatalog
