import ErrorCatalog.Entry.Basic
import ErrorCatalog.Go.Identifier
import ErrorCatalog.Text.Digit
/-!
# Entries that can be rendered

Three rules decide whether entries make up Go source that compiles.

* Every identifier is a Go identifier and more than the common beginning of all of them.
* No two entries share a code.
* No two entries share an identifier.

`Entry.firstFault?` goes through the entries in order and reports the first one that breaks a rule
together with those before it, by the rules in this order.
-/

namespace ErrorCatalog

inductive RenderFault where
  | badName (name : Text)
  | sharedCode (code : Int) (first second : Text)
  | sharedIdentifier (first second identifier : Text)
  | formatter
  | other (reason : Text)
  deriving DecidableEq, Repr

namespace RenderFault

def message : RenderFault → Text
  | .badName name => "entry name '" ++ name ++ "' does not form a Go identifier"
  | .sharedCode code first second =>
      "code " ++ Text.ofInt code ++ " is declared by both " ++ first ++ " and " ++ second
  | .sharedIdentifier first second identifier =>
      first ++ " and " ++ second ++ " both generate " ++ identifier
  | .formatter => "formatter error while writing generated source"
  | .other reason => reason

end RenderFault

namespace Entry

def isEntryIdentifier (identifier : Text) : Bool :=
  Go.isIdentifier identifier && identifier != identifierPrefix

/-- The first rule that an entry breaks, given the entries before it with their identifiers. -/
def faultAfter? (earlier : List (Text × Entry)) (identifier : Text) (e : Entry) :
    Option RenderFault :=
  if !isEntryIdentifier identifier then some (.badName e.name)
  else
    match earlier.find? fun other => other.2.code = e.code with
    | some (_, other) => some (.sharedCode e.code other.name e.name)
    | none =>
      match earlier.find? fun other => other.1 = identifier with
      | some (_, other) => some (.sharedIdentifier other.name e.name identifier)
      | none => none

def firstFaultAfter? (earlier : List (Text × Entry)) : List Entry → Option RenderFault
  | [] => none
  | e :: rest =>
      let identifier := e.identifier
      match faultAfter? earlier identifier e with
      | some fault => some fault
      | none => firstFaultAfter? ((identifier, e) :: earlier) rest

def firstFault? (entries : List Entry) : Option RenderFault :=
  firstFaultAfter? [] entries

end Entry

end ErrorCatalog
