import ErrorCatalog.Generated.Errors
import ErrorCatalog.Proofs.Entry.Check
import ErrorCatalog.Proofs.Go.Token
/-!
# A reader for the file of errors

`ErrorsFile.read?` reads the file of errors line by line, as one who knows its layout but not what
it was generated from. Comments are dropped first. Of what is left nothing may be missing or left
over: the clause of the package, the message for internal errors, the group of values, the table and
the look-up follow each other with one empty line between them.

Every line that is written for an entry is read back as what the entry says.
-/

namespace ErrorCatalog

namespace Generated

namespace ErrorsFile

/-! ## Lines -/

structure Declaration where
  identifier : Text
  code : Int
  -- The literal of the message, quotes and escapes as they stand in the line.
  message : Text
  status : Int
  deriving DecidableEq, Repr

def readDeclaration? (line : Text) : Option Declaration := do
  let rest ← Text.after? "\t" line
  let (identifier, rest) ← Go.identifierToken? rest
  let rest ← Text.after? " = New(" rest
  let (code, rest) ← Go.integerToken? rest
  let rest ← Text.after? ", " rest
  let (message, rest) ← Go.literalToken? rest
  let rest ← Text.after? ", " rest
  let (status, rest) ← Go.integerToken? rest
  let rest ← Text.after? ")" rest
  if rest.isEmpty then some ⟨identifier, code, message, status⟩ else none

def readRow? (line : Text) : Option (Int × Text) := do
  let rest ← Text.after? "\t" line
  let (code, rest) ← Go.integerToken? rest
  let rest ← Text.after? ": " rest
  let (identifier, rest) ← Go.identifierToken? rest
  let rest ← Text.after? "," rest
  if rest.isEmpty then some (code, identifier) else none

def readPackage? (line : Text) : Option Text := do
  let rest ← Text.after? "package " line
  let (package, rest) ← Go.identifierToken? rest
  if rest.isEmpty then some package else none

def readMessage? (line : Text) : Option Text := do
  let rest ← Text.after? "const DefaultMessage = " line
  let (message, rest) ← Go.literalToken? rest
  if rest.isEmpty then some message else none

/-! ## Groups of lines -/

/-- Reads lines up to the one that closes their group; what follows it is left. -/
def readGroup? {α : Type} (readLine? : Text → Option α) (closing : Text) :
    List Text → Option (List α × List Text)
  | [] => none
  | line :: rest =>
      if line = closing then some ([], rest)
      else do
        let first ← readLine? line
        let (others, behind) ← readGroup? readLine? closing rest
        some (first :: others, behind)

/-- Reads the values and the table; what follows them is left. -/
def readValues? : List Text → Option (List Declaration × List (Int × Text) × List Text)
  | [] => none
  | line :: rest =>
      if line = groupOpening then do
        let (declarations, rest) ← readGroup? readDeclaration? [')'] rest
        match rest with
        | [] :: opening :: rest =>
          if opening = tableOpening then do
            let (rows, rest) ← readGroup? readRow? ['\x7d'] rest
            some (declarations, rows, rest)
          else none
        | _ => none
      else if line = tableOpening ++ ['\x7d'] then some ([], [], rest)
      else none

/-! ## The file -/

/-- Whether a line is a comment: its first characters behind tabs are two slashes. -/
def isComment (line : Text) : Bool :=
  (Text.after? "//" (line.dropWhile (· = '\t'))).isSome

/-- The lines of source in a text: those that are no comments. -/
def sourceLines (content : Text) : List Text :=
  (Text.lines content).filter fun line => !isComment line

structure Reading where
  package : Text
  -- The literal of the message for internal errors.
  message : Text
  declarations : List Declaration
  rows : List (Int × Text)
  deriving DecidableEq, Repr

def read? (content : Text) : Option Reading :=
  match sourceLines content with
  | [] :: clause :: [] :: constant :: [] :: rest => do
      let package ← readPackage? clause
      let message ← readMessage? constant
      let (declarations, rows, rest) ← readValues? rest
      if rest = [] :: lookUp.filter (fun line => !isComment line) then
        some ⟨package, message, declarations, rows⟩
      else none
  | _ => none

/-! ## Reading back single lines -/

variable {defaultMessage package : Text} {e : Entry} {entries : List Entry}

def declaration (defaultMessage : Text) (e : Entry) : Declaration :=
  ⟨e.identifier, e.code, Go.stringLiteral (clientMessage defaultMessage e), e.httpStatus⟩

/-- A declaration ends where its literals end, whatever the literals quote. -/
theorem readDeclaration?_declarationLine (h : Go.isIdentifier e.identifier = true) :
    readDeclaration? (declarationLine defaultMessage e)
      = some (declaration defaultMessage e) := by
  -- Each token ends where the next separator begins, so they are read one after the other.
  have hname (t : Text) : Go.identifierToken? (e.identifier ++ (" = New(" ++ t))
      = some (e.identifier, " = New(" ++ t) :=
    Go.identifierToken?_append h (Text.stops_cons.2 rfl)
  have hcode (t : Text) : Go.integerToken? (Text.ofInt e.code ++ (", " ++ t))
      = some (e.code, ", " ++ t) :=
    Go.integerToken?_ofInt e.code (Text.stops_cons.2 rfl)
  have hmessage := Go.literalToken?_stringLiteral (clientMessage defaultMessage e)
  have hstatus : Go.integerToken? (Text.ofInt e.httpStatus ++ ")")
      = some (e.httpStatus, (")" : Text)) :=
    Go.integerToken?_ofInt e.httpStatus (Text.stops_cons.2 rfl)
  unfold declarationLine
  simp only [List.append_assoc, readDeclaration?, Text.after?_append, Option.bind_eq_bind,
    Option.bind_some, hname, hcode, hmessage, hstatus]
  rfl

def row (e : Entry) : Int × Text :=
  (e.code, e.identifier)

/-- A row of the table is read as the code and the identifier that it holds. -/
theorem readRow?_tableLine (h : Go.isIdentifier e.identifier = true) :
    readRow? (tableLine e) = some (row e) := by
  have hcode (t : Text) : Go.integerToken? (Text.ofInt e.code ++ (": " ++ t))
      = some (e.code, ": " ++ t) :=
    Go.integerToken?_ofInt e.code (Text.stops_cons.2 rfl)
  have hname : Go.identifierToken? (e.identifier ++ ",") = some (e.identifier, ("," : Text)) :=
    Go.identifierToken?_append h (Text.stops_cons.2 rfl)
  unfold tableLine
  simp only [List.append_assoc, readRow?, Text.after?_append, Option.bind_eq_bind,
    Option.bind_some, hcode, hname]
  rfl

def packageLine (package : Text) : Text :=
  "package " ++ package

theorem readPackage?_packageLine (h : Go.isIdentifier package = true) :
    readPackage? (packageLine package) = some package := by
  have hname := Go.identifierToken?_append h Text.stops_nil
  rw [List.append_nil] at hname
  unfold packageLine
  simp only [readPackage?, Text.after?_append, Option.bind_eq_bind, Option.bind_some, hname]
  rfl

def messageLine (defaultMessage : Text) : Text :=
  "const DefaultMessage = " ++ Go.stringLiteral defaultMessage

theorem readMessage?_messageLine (defaultMessage : Text) :
    readMessage? (messageLine defaultMessage) = some (Go.stringLiteral defaultMessage) := by
  have hmessage := Go.literalToken?_stringLiteral defaultMessage []
  rw [List.append_nil] at hmessage
  unfold messageLine
  simp only [readMessage?, Text.after?_append, Option.bind_eq_bind, Option.bind_some, hmessage]
  rfl

/-! ## Reading back groups -/

/-- A group is read up to its closing line, if no line of it looks like that one. -/
theorem readGroup?_append {α β : Type} {readLine? : Text → Option α} {closing : Text}
    {write : β → Text} {value : β → α} {bs : List β} (rest : List Text)
    (h : ∀ b ∈ bs, write b ≠ closing ∧ readLine? (write b) = some (value b)) :
    readGroup? readLine? closing (bs.map write ++ closing :: rest)
      = some (bs.map value, rest) := by
  induction bs with
  | nil => simp [readGroup?]
  | cons b bs ih =>
    rcases h b List.mem_cons_self with ⟨hopen, hfirst⟩
    have hothers := ih fun other hother => h other (List.mem_cons_of_mem b hother)
    simp [readGroup?, hopen, hfirst, hothers]

end ErrorsFile

end Generated

end ErrorCatalog
