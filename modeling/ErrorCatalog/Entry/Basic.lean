import ErrorCatalog.Text.Case
/-!
# Entries of an error catalogue

An entry is one error code with its name. A *public* entry carries an HTTP status and a message for
clients. An *internal* entry carries a comment only: clients never see more of it than a general
message. Status 0 marks an entry as internal.

`Entry.identifier` is the name that an entry gets in generated source: `USER_NOT_FOUND` becomes
`ErrUserNotFound`. Different names may share an identifier; see `ErrorCatalog.Entry.Check`.
-/

namespace ErrorCatalog

structure Entry where
  code : Int
  name : Text
  -- What an internal entry says about itself.
  comment : Text
  -- The HTTP status of a public entry, 0 for an internal one.
  httpStatus : Int
  -- What clients are told about a public entry.
  httpMessage : Text
  deriving DecidableEq, Repr

namespace Entry

/-! ## The two kinds -/

def internal (code : Int) (name comment : Text) : Entry :=
  ⟨code, name, comment, 0, []⟩

/-- A public entry; a status of zero or below makes an internal one with the message as its
comment. -/
def withStatus (code : Int) (name : Text) (status : Int) (message : Text) : Entry :=
  if status ≤ 0 then internal code name message else ⟨code, name, [], status, message⟩

/-- Whether an entry hides behind the general message. -/
def isInternal (e : Entry) : Bool :=
  e.httpStatus = 0

def description (e : Entry) : Text :=
  if e.isInternal then e.comment else e.httpMessage

/-! ## Identifiers -/

def identifierPrefix : Text :=
  "Err"

/-- A segment in lower case but for its first character, which is in upper case. -/
def capitalise (segment : Text) : Text :=
  match Text.lower segment with
  | [] => []
  | first :: rest => Text.upperChar first ++ rest

/-- The segments of a name between underscores, each capitalised, run together. -/
def pascalCase (name : Text) : Text :=
  (Text.pieces '_' name).flatMap capitalise

def identifier (e : Entry) : Text :=
  identifierPrefix ++ pascalCase e.name

/-! ## Order -/

/-- Puts an entry before the first that has at least its code. -/
def insertByCode (e : Entry) : List Entry → List Entry
  | [] => [e]
  | first :: rest =>
      if e.code ≤ first.code then e :: first :: rest else first :: insertByCode e rest

/-- The entries in ascending order of codes; entries of one code keep their order. -/
def sortByCode (entries : List Entry) : List Entry :=
  entries.foldr insertByCode []

/-- Inserting an entry adds it and loses none. -/
theorem insertByCode_perm (e : Entry) (entries : List Entry) :
    (insertByCode e entries).Perm (e :: entries) := by
  induction entries with
  | nil => exact .refl _
  | cons first rest ih =>
    unfold insertByCode
    split
    · exact .refl _
    · exact (ih.cons first).trans (.swap e first rest)

/-- Sorting rearranges. -/
theorem sortByCode_perm (entries : List Entry) : (sortByCode entries).Perm entries := by
  induction entries with
  | nil => exact .refl _
  | cons e rest ih => exact (insertByCode_perm e _).trans (ih.cons e)

end Entry

end ErrorCatalog
