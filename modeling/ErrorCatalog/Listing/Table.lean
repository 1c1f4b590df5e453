import ErrorCatalog.Source
import ErrorCatalog.Text.Digit
/-!
# The table of entries

Entries as a table for people to read: a line of titles, a line for each entry, and a line that sums
up. The first three columns have fixed widths, which a longer cell overruns.
-/

namespace ErrorCatalog

namespace Listing

def row (code identifier status message : Text) : Text :=
  Text.padRight 8 code ++ " " ++ Text.padRight 32 identifier ++ " " ++ Text.padRight 6 status ++ " "
    ++ message

/-- The status that clients see for an entry, if they see one. -/
def status (e : Entry) : Text :=
  if e.isInternal then "-" else Text.ofInt e.httpStatus

def entryRow (e : Entry) : Text :=
  row (Text.ofInt e.code) e.identifier (status e) e.description

def summary (source : Source) (entries : List Entry) : Text :=
  Text.ofNat entries.length ++ " entries from " ++ source.path ++ " (" ++ source.kind ++ ")"

def table (source : Source) (entries : List Entry) : List Text :=
  row "CODE" "IDENTIFIER" "HTTP" "MESSAGE" :: entries.map entryRow ++ [[], summary source entries]

end Listing

end ErrorCatalog
