import ErrorCatalog.Entry.Basic
import ErrorCatalog.Proofs.Text.Case
/-!
# What identifiers look like

Behind the common beginning of all identifiers stands no small letter, since what follows there is
an upper-case form. So no name whatever has the identifier `Error`, or another one that goes on with
a small letter.
-/

namespace ErrorCatalog

namespace Entry

theorem stops_capitalise (segment : Text) : Text.Stops Char.isLower (capitalise segment) := by
  unfold capitalise
  cases Text.lower segment with
  | nil => exact Text.stops_nil
  | cons first rest =>
    exact Text.stops_append (Text.stops_upperChar first) (Text.upperChar_ne_nil first)

/-- A name in Pascal case does not begin with a small letter. -/
theorem stops_pascalCase (name : Text) : Text.Stops Char.isLower (pascalCase name) :=
  Text.stops_flatMap fun segment _ => stops_capitalise segment

/-- Whether a text starts as identifiers do: with their common beginning and no small letter behind
it. -/
def isShapedAsIdentifier (t : Text) : Bool :=
  match Text.after? identifierPrefix t with
  | some rest => decide (Text.Stops Char.isLower rest)
  | none => false

/-- Every name gives an identifier of the right shape, even an empty one. -/
theorem isShapedAsIdentifier_identifier (e : Entry) : isShapedAsIdentifier e.identifier = true := by
  have hrest := stops_pascalCase e.name
  simp [isShapedAsIdentifier, identifier, Text.after?_append, hrest]

/-- A word without the shape is no identifier of an entry. -/
theorem identifier_ne {name : Text} (h : isShapedAsIdentifier name = false) (e : Entry) :
    e.identifier ≠ name := by
  rintro rfl
  rw [isShapedAsIdentifier_identifier] at h
  cases h

end Entry

end ErrorCatalog
