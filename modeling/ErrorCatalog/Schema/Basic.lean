import ErrorCatalog.Schema.EntryLine
/-!
# Schemas

A schema declares its error codes in the block `enum ErrorCode { … }`. Only the first such block
counts: from the first line that opens it to the first line after that whose first character other
than ASCII blanks is a closing brace, or to the end of the text. Lines in between that are no entry
lines say nothing.

`Schema.render` writes entries in this notation, in the spelling that leaves no choice.
-/

namespace ErrorCatalog

namespace Schema

/-! ## Reading -/

/-- Whether a line opens the block: `enum`, at least one ASCII blank, `ErrorCode` and a brace. -/
def opensBlock (line : Text) : Bool :=
  match Text.after? "enum" (line.dropWhile Text.isSpace) with
  | none => false
  | some rest =>
    rest.head?.any Text.isSpace &&
      match Text.after? "ErrorCode" (rest.dropWhile Text.isSpace) with
      | none => false
      | some rest => (rest.dropWhile Text.isSpace).head? = some '{'

def closesBlock (line : Text) : Bool :=
  (line.dropWhile Text.isSpace).head? = some '}'

/-- The entries of the lines still to be looked at, in order; `inBlock` says whether a line has
opened the block. Until then nothing but such a line matters, and from then on the first closing
line ends the scan. -/
def scan (inBlock : Bool) : List Text → List Entry
  | [] => []
  | line :: rest =>
    if !inBlock then scan (opensBlock line) rest
    else if closesBlock line then []
    else
      match readLine? line with
      | none => scan true rest
      | some e => e :: scan true rest

/-- The entries that a schema declares, in ascending order of codes. -/
def entries (schema : Text) : List Entry :=
  Entry.sortByCode (scan false (Text.lines schema))

/-! ## Writing -/

/-- The comment that declares an entry to be of its kind. -/
def renderComment (e : Entry) : Text :=
  if e.isInternal then e.comment
  else e.httpMessage ++ " " ++ statusMarker ++ Text.ofInt e.httpStatus

def renderEntry (e : Entry) : Text :=
  e.name ++ " = " ++ Text.ofInt e.code ++ "; // " ++ renderComment e

def openingLine : Text :=
  "enum ErrorCode \x7b"

def closingLine : Text :=
  "\x7d"

/-- A schema that declares the entries in the order given. -/
def render (entries : List Entry) : Text :=
  Text.unlines (openingLine :: entries.map renderEntry ++ [closingLine])

end Schema

end ErrorCatalog
