import ErrorCatalog.Entry.Basic
import ErrorCatalog.Go.Identifier
import ErrorCatalog.Text.Blank
import ErrorCatalog.Text.Digit
/-!
# Entry lines of a schema

An entry line is `NAME = CODE;`, blanks anywhere between the parts, and behind it nothing or a
comment that starts with `//`. The comment, blanks at its ends left out, says which kind of entry
the line declares: one that ends in the annotation `@http=STATUS` declares a public entry, any other
an internal one.

The annotation has text before it and at least one ASCII blank between that text and itself. Its
status is a numeral of a value between 1 and the greatest signed word of 64 bits. Anything else is
plain text.
-/

namespace ErrorCatalog

namespace Schema

/-! ## Annotations -/

def statusMarker : Text :=
  "@http="

/-- The message and the status of an annotated comment. The last marker counts: behind it must stand
the status, before it the message and a gap. -/
def annotation? (comment : Text) : Option (Text × Nat) :=
  match Text.cutLast? statusMarker (Text.trimEnd Text.isSpace comment) with
  | none => none
  | some (before, digits) =>
    if digits.isEmpty || !digits.all Char.isDigit then none
    else
      let message := Text.trimEnd Text.isSpace before
      -- Equal lengths mean that no blank stands before the marker.
      if message.isEmpty || message.length = before.length then none
      else
        match Text.readWord? digits with
        | none => none
        | some status => if status = 0 then none else some (Text.trimBlank message, status)

/-- The entry that a name, a code and a trimmed comment declare. -/
def classify (code : Nat) (name comment : Text) : Entry :=
  match annotation? comment with
  | some (message, status) => .withStatus code name status message
  | none => .internal code name comment

/-! ## Lines -/

/-- The comment behind the semicolon of an entry line: empty when nothing stands there. -/
def comment? (rest : Text) : Option Text :=
  if rest.isEmpty then some [] else (Text.after? "//" rest).map Text.trimBlank

def readLine? (line : Text) : Option Entry :=
  let line := line.dropWhile Text.isSpace
  let name := line.takeWhile Go.isWordChar
  if name.isEmpty then none
  else do
    let rest ← Text.after? "=" ((line.dropWhile Go.isWordChar).dropWhile Text.isSpace)
    let rest := rest.dropWhile Text.isSpace
    let code ← Text.readWord? (rest.takeWhile Char.isDigit)
    let rest ← Text.after? ";" ((rest.dropWhile Char.isDigit).dropWhile Text.isSpace)
    let comment ← comment? (rest.dropWhile Text.isSpace)
    some (classify code name comment)

end Schema

end ErrorCatalog
