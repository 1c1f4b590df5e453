import ErrorCatalog.Text.Basic
/-!
# Faults of project files

Why the text of a project file is refused.
-/

namespace ErrorCatalog

namespace ProjectFile

inductive Fault where
  | forbiddenCharacter
  | unexpectedCharacter
  | tabIndentation
  | missingColon
  -- A key or value at a place where none may stand.
  | misplaced
  | openQuote
  | unknownEscape
  | blockHead
  | anchorName
  | tag
  | directive
  -- A part at a place where another is needed.
  | unexpectedPart
  -- A list or a nested mapping.
  | collection
  | unknownAlias
  | unknownSetting (name : Text)
  | repeatedSetting (name : Text)
  -- A text that is tagged as nothing.
  | notNothing
  deriving DecidableEq, Repr

namespace Fault

def message : Fault → Text
  | .forbiddenCharacter => "control characters are not allowed"
  | .unexpectedCharacter => "found character that cannot start any token"
  | .tabIndentation => "found a tab character in the indentation"
  | .missingColon => "could not find expected ':'"
  | .misplaced => "mapping keys and values are not allowed in this context"
  | .openQuote => "found unexpected end of a quoted scalar"
  | .unknownEscape => "found unknown escape sequence"
  | .blockHead => "did not find expected head of a block scalar"
  | .anchorName => "did not find expected alphabetic or numeric character"
  | .tag => "found malformed or undefined tag"
  | .directive => "found malformed or duplicate directive"
  | .unexpectedPart => "did not find expected structure"
  | .collection => "invalid type: expected a string"
  | .unknownAlias => "unknown anchor"
  | .unknownSetting name => "unknown field: " ++ name
  | .repeatedSetting name => "duplicate field: " ++ name
  | .notNothing => "invalid value: expected null"

end Fault

end ProjectFile

end ErrorCatalog
