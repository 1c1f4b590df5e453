import ErrorCatalog.ProjectFile.Scalar
import ErrorCatalog.Text.Utf8
/-!
# Tokens of project files

The parts that a project file is made of, and the readers of those that are words: anchors, aliases,
tags and directives. Each reader starts behind the sign that opens its part and gives the token with
the glyphs behind it.

The bytes of a tag may be written as a percent sign and two hexadecimal digits, as long as the bytes
of one character are all written that way.
-/

namespace ErrorCatalog

namespace ProjectFile

inductive Token where
  | version (major minor : Nat)
  -- What tags with a handle begin with.
  | tagHandle (handle : Text) (replacement : Bytes)
  | documentStart
  | documentEnd
  | blockStart
  | blockEnd
  | flowStart
  | flowEnd
  | flowEntry
  | key
  | value
  | alias (name : Text)
  | anchor (name : Text)
  | tag (handle : Text) (rest : Bytes)
  | scalar (text : Text) (isPlain : Bool)
  | fileEnd
  deriving DecidableEq, Repr

/-! ## Anchors and aliases -/

def anchorName (glyphs : List Glyph) : Except Fault (Text × List Glyph) :=
  let (name, rest) := span isNameChar glyphs
  let ends := ['?', ':', ',', ']', '\x7d', '%', '@', '`']
  if !name.isEmpty && (atGap rest || headIs ends.contains rest) then .ok (name, rest)
  else .error .anchorName

/-! ## Tags -/

/-- Whether a character may stand in the text of a tag; where the tag ends is clear from its
spelling only if it is `delimited`, and then it may hold the signs of collections as well. -/
def isTagChar (delimited : Bool) (c : Char) : Bool :=
  isNameChar c
    || [';', '/', '?', ':', '@', '&', '=', '+', '$', '.', '%', '!', '~', '*', '\''].contains c
    || ['(', ')'].contains c
    || (delimited && [',', '[', ']'].contains c)

/-- The number of bytes after the first byte of a character; `none` for a byte that begins
nothing. -/
def bytesAfter? (first : Nat) : Option Nat :=
  if first < 0x80 then some 0
  else if first < 0xC0 then none
  else if first < 0xE0 then some 1
  else if first < 0xF0 then some 2
  else if first < 0xF8 then some 3
  else none

/-- The bytes that the text of a tag stands for; `more` bytes of an open character are still to
come. -/
def tagBytes? (more : Nat) : Text → Option Bytes
  | [] => if more = 0 then some [] else none
  | '%' :: a :: b :: rest =>
      match Text.hexValue? a, Text.hexValue? b with
      | some high, some low =>
        let byte := 16 * high + low
        -- Within a character only bytes that continue one may follow.
        let left := if more = 0 then bytesAfter? byte
          else if 0x80 ≤ byte && byte < 0xC0 then some (more - 1) else none
        left.bind fun left => (tagBytes? left rest).map (UInt8.ofNat byte :: ·)
      | _, _ => none
  | c :: rest =>
      if c = '%' || more != 0 then none else (tagBytes? 0 rest).map (Text.encodeChar c ++ ·)

/-- The bytes of a tag that count: those before the first zero byte. -/
def untilZero (bytes : Bytes) : Bytes :=
  bytes.takeWhile (· != 0)

def tagText (delimited : Bool) (glyphs : List Glyph) : Except Fault (Bytes × List Glyph) :=
  let (text, rest) := span (isTagChar delimited) glyphs
  match tagBytes? 0 text with
  | some bytes => .ok (bytes, rest)
  | none => .error .tag

/-- The text of a tag, which may not be empty. -/
def someTagText (delimited : Bool) (glyphs : List Glyph) : Except Fault (Bytes × List Glyph) := do
  let (bytes, rest) ← tagText delimited glyphs
  if bytes.isEmpty then throw .tag else pure (bytes, rest)

/-- The name in a handle, from behind its first exclamation mark: `some` if a second mark closes
it. -/
def handleName? (glyphs : List Glyph) : Option Text × List Glyph :=
  let (name, rest) := span isNameChar glyphs
  match rest with
  | [] => (none, [])
  | glyph :: behind => if glyph.char = '!' then (some name, behind) else (none, glyph :: behind)

/-- A handle between its exclamation marks. -/
def handle (name : Text) : Text :=
  "!" ++ name ++ "!"

/-- A tag in any of its spellings: in angle brackets, with a handle, or local. -/
def anyTag (glyphs : List Glyph) : Except Fault (Token × List Glyph) :=
  if headIs (· = '<') glyphs then do
    let (bytes, rest) ← someTagText true (glyphs.drop 1)
    if headIs (· = '>') rest then pure (.tag [] (untilZero bytes), rest.drop 1) else throw .tag
  else
    match handleName? glyphs with
    | (some name, rest) => do
      let (bytes, rest) ← someTagText false rest
      pure (.tag (handle name) (untilZero bytes), rest)
    | (none, _) => do
      let (name, rest) := span isNameChar glyphs
      let (bytes, rest) ← tagText false rest
      let bytes := Text.encode name ++ untilZero bytes
      pure (if bytes.isEmpty then .tag [] (Text.encode "!") else .tag "!" bytes, rest)

/-- A tag and what must follow it. -/
def tag (inFlow : Bool) (glyphs : List Glyph) : Except Fault (Token × List Glyph) := do
  let (token, rest) ← anyTag glyphs
  if atGap rest || (inFlow && headIs (· = ',') rest) then pure (token, rest) else throw .tag

/-! ## Directives -/

def versionNumber (glyphs : List Glyph) : Except Fault (Nat × List Glyph) :=
  let (digits, rest) := span Char.isDigit glyphs
  if digits.isEmpty || 9 < digits.length then .error .directive
  else .ok (Nat.ofDigitChars 10 digits 0, rest)

def versionDirective (glyphs : List Glyph) : Except Fault (Token × List Glyph) := do
  let (major, rest) ← versionNumber glyphs
  if !headIs (· = '.') rest then throw .directive
  let (minor, rest) ← versionNumber (rest.drop 1)
  pure (.version major minor, rest)

def tagDirective (glyphs : List Glyph) : Except Fault (Token × List Glyph) := do
  if !headIs (· = '!') glyphs then throw .directive
  let (name, rest) ← match handleName? (glyphs.drop 1) with
    | (some name, rest) => pure (handle name, rest)
    | (none, rest) =>
      if rest.length + 1 = glyphs.length then pure (("!" : Text), rest) else throw .directive
  if !headIs isBlank rest then throw .directive
  let (bytes, rest) ← someTagText true (dropBlanks rest)
  if atGap rest then pure (.tagHandle name (untilZero bytes), rest) else throw .directive

/-- A directive: the rest of its line. -/
def directive (glyphs : List Glyph) : Except Fault (Token × List Glyph) := do
  let (name, rest) := span isNameChar glyphs
  if !atGap rest then throw .directive
  let rest := dropBlanks rest
  let (token, rest) ←
    if name = "YAML" then versionDirective rest
    else if name = "TAG" then tagDirective rest
    else throw .directive
  let rest := dropBlanks rest
  let rest := if headIs (· = '#') rest then dropLine rest else rest
  if rest.isEmpty || headIs isBreak rest then pure (token, rest.drop 1) else throw .directive

end ProjectFile

end ErrorCatalog
