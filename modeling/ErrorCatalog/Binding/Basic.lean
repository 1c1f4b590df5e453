import ErrorCatalog.Entry.Basic
import ErrorCatalog.SortedTable
import ErrorCatalog.Text.Blank
import ErrorCatalog.Text.Digit
/-!
# Compiled bindings

A compiled binding lists the names of its error codes in a table with lines like `10001: "NAME",`. A
table entry is digits, a colon, any blanks, and a quoted name without a quote in it. Entries are
found wherever they stand in a line, from left to right, each search going on behind the entry found
before.

Digits are those of any script, but only a numeral of ASCII digits that fits a signed word of 64
bits is a code; an entry with another numeral is passed over. Of several entries with one code the
last counts. A binding knows no annotations, so all its entries are internal.
-/

namespace ErrorCatalog

namespace Binding

/-! ## Table entries -/

/-- A table entry at the very beginning of a text: its digits, its name and what follows. -/
def readPair? (t : Text) : Option (Text × Text × Text) :=
  let digits := t.takeWhile Text.isDigit
  if digits.isEmpty then none
  else do
    let rest ← Text.after? ":" (t.dropWhile Text.isDigit)
    let rest ← Text.after? "\"" (rest.dropWhile Text.isBlank)
    let name := rest.takeWhile (· != '"')
    let rest ← Text.after? "\"" (rest.dropWhile (· != '"'))
    if name.isEmpty then none else some (digits, name, rest)

/-- What follows a token is shorter than the whole by the token. -/
theorem length_of_after? {token t rest : Text} (h : Text.after? token t = some rest) :
    t.length = token.length + rest.length := by
  rw [Text.after?_eq_some_iff.1 h, List.length_append]

/-- A table entry takes up room. -/
theorem length_lt_of_readPair? {t digits name rest : Text}
    (h : readPair? t = some (digits, name, rest)) : rest.length < t.length := by
  simp only [readPair?] at h
  split at h
  · cases h
  · simp only [Option.bind_eq_bind, Option.bind_eq_some_iff] at h
    obtain ⟨first, hfirst, second, hsecond, third, hthird, h⟩ := h
    split at h
    · cases h
    · cases h
      have hdigits := (List.dropWhile_sublist (l := t) Text.isDigit).length_le
      have hblanks := (List.dropWhile_sublist (l := first) Text.isBlank).length_le
      have hname := (List.dropWhile_sublist (l := second) (· != '"')).length_le
      have hcolon := length_of_after? hfirst
      have hopen := length_of_after? hsecond
      have hclose := length_of_after? hthird
      have hone : (":" : Text).length = 1 := rfl
      omega

/-- The table entries of a line, from left to right: digits and name. -/
def lineEntries (line : Text) : List (Text × Text) :=
  match line with
  | [] => []
  | c :: others =>
    match _h : readPair? (c :: others) with
    | some (digits, name, rest) => (digits, name) :: lineEntries rest
    -- No table entry begins here, but one may begin at the next character.
    | none => lineEntries others
termination_by line.length
decreasing_by
  · exact length_lt_of_readPair? _h
  · exact Nat.lt_succ_self others.length

/-- The codes and names in a binding, in the order in which they stand there. -/
def declarations (binding : Text) : List (Nat × Text) :=
  ((Text.lines binding).flatMap lineEntries).filterMap fun (digits, name) =>
    (Text.readWord? digits).map fun code => (code, name)

/-! ## Entries -/

def table (binding : Text) : SortedTable Nat Text :=
  .ofPairs (declarations binding)

/-- The entries of a binding, in ascending order of codes. -/
def entries (binding : Text) : List Entry :=
  (table binding).map fun (code, name) => .internal code name []

/-! ## Writing -/

/-- The line of a name table for one code, with `gap` between colon and name. -/
def renderLine (gap : Text) (code : Int) (name : Text) : Text :=
  "\t\t" ++ Text.ofInt code ++ ":" ++ gap ++ "\"" ++ name ++ "\","

/-- The line of a value table for one name, with `gap` between colon and code. -/
def renderValueLine (gap : Text) (code : Int) (name : Text) : Text :=
  "\t\t\"" ++ name ++ "\":" ++ gap ++ Text.ofInt code ++ ","

/-- A row of a table: an entry, and how many spaces stand behind the colon. -/
structure Row where
  entry : Entry
  spaces : Nat

def Row.gap (row : Row) : Text :=
  List.replicate row.spaces ' '

def nameTableOpening : Text :=
  "ErrorCode_name = map[int32]string\x7b"

def valueTableOpening : Text :=
  "ErrorCode_value = map[string]int32\x7b"

def tableClosing : Text :=
  "\x7d"

/-- The lines of a table: one that opens it, one for each row, and one that ends it. -/
def tableLines (opening : Text) (line : Text → Int → Text → Text) (rows : List Row) : List Text :=
  opening :: rows.map (fun row => line row.gap row.entry.code row.entry.name) ++ [tableClosing]

def nameTable (rows : List Row) : List Text :=
  tableLines nameTableOpening renderLine rows

def valueTable (rows : List Row) : List Text :=
  tableLines valueTableOpening renderValueLine rows

def render (names values : List Row) : Text :=
  Text.unlines (nameTable names ++ valueTable values)

end Binding

end ErrorCatalog
