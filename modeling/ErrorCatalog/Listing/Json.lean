import ErrorCatalog.Entry.Basic
import ErrorCatalog.Text.Digit
/-!
# The JSON listing

Entries as a JSON array of objects, one field a line, indented by two spaces a level. Inside strings
the quote, the backslash and the characters below space are escaped, by the short escapes where JSON
has them; every other character stands for itself.
-/

namespace ErrorCatalog

namespace Listing

namespace Json

def escapeChar (c : Char) : Text :=
  if c = '"' then ['\\', '"']
  else if c = '\\' then ['\\', '\\']
  else if c = '\x08' then ['\\', 'b']
  else if c = '\t' then ['\\', 't']
  else if c = '\n' then ['\\', 'n']
  else if c = '\x0c' then ['\\', 'f']
  else if c = '\r' then ['\\', 'r']
  else if c.toNat < 0x20 then
    ['\\', 'u', '0', '0', Nat.digitChar (c.toNat / 16), Nat.digitChar (c.toNat % 16)]
  else [c]

def string (t : Text) : Text :=
  '"' :: (t.flatMap escapeChar ++ ['"'])

/-- The fields of an entry with their values in JSON, in the order in which they are written. -/
def fields (e : Entry) : List (Text × Text) :=
  [("code", Text.ofInt e.code), ("name", string e.name), ("comment", string e.comment),
    ("http_status", Text.ofInt e.httpStatus), ("http_message", string e.httpMessage)]

def field (name value : Text) : Text :=
  "\n    " ++ string name ++ ": " ++ value

def object (e : Entry) : Text :=
  "\n  \x7b" ++ Text.joinWith "," ((fields e).map fun (name, value) => field name value)
    ++ "\n  \x7d"

end Json

def json (entries : List Entry) : Text :=
  if entries.isEmpty then "[]" else "[" ++ Text.joinWith "," (entries.map Json.object) ++ "\n]"

end Listing

end ErrorCatalog
