import ErrorCatalog.ProjectFile.Token
/-!
# From text to tokens

A scan goes through the glyphs of a file and puts one token after the other. That something was a
key shows only at the colon behind it: where a key may stand, a scan remembers the place, and the
colon puts the `key` token there, behind a `blockStart` token if the key stands further right than
the mapping around it. Text further left ends the mappings in lines to the right of it.

Every step takes at least the glyph that it begins with. `Scan.run` checks that it did and would
refuse a step that left everything where it was, so a scan ends.
-/

namespace ErrorCatalog

namespace ProjectFile

/-- A place where a key may have begun. -/
structure KeyPlace where
  -- Whether nothing but a key can stand there.
  isRequired : Bool
  line : Nat
  column : Nat

structure Scan where
  rest : List Glyph
  -- The tokens before the remembered place, the last one first.
  settled : List Token := []
  -- The tokens behind the remembered place, the last one first.
  held : List Token := []
  inFlow : Bool := false
  -- The columns of the open mappings in lines, the innermost first.
  columns : List Nat := []
  keyAllowed : Bool := true
  -- The remembered place.
  key : Option KeyPlace := none

namespace Scan

/-! ## Tokens and places -/

def put (scan : Scan) (token : Token) : Scan :=
  { scan with held := token :: scan.held }

/-- The least column of what belongs to the innermost mapping in lines. -/
def margin (scan : Scan) : Nat :=
  match scan.columns with
  | [] => 0
  | column :: _ => column + 1

/-- Ends the mappings in lines whose columns satisfy `isOver`; within braces none ends. -/
def close (isOver : Nat → Bool) (scan : Scan) : Scan :=
  if scan.inFlow then scan
  else { scan with
    columns := scan.columns.dropWhile isOver
    held := (scan.columns.takeWhile isOver).map (fun _ => Token.blockEnd) ++ scan.held }

/-- Whether a mapping in lines begins with a key at this column. -/
def opens (scan : Scan) (column : Nat) : Bool :=
  !scan.inFlow && scan.margin ≤ column

/-- Begins a mapping in lines at this column, if one begins here. -/
def openAt (column : Nat) (scan : Scan) : Scan :=
  if scan.opens column then { scan.put .blockStart with columns := column :: scan.columns }
  else scan

/-- Forgets the remembered place, which must not be one that requires a key. -/
def dropKey (scan : Scan) : Except Fault Scan :=
  if scan.key.any (·.isRequired) then .error .missingColon else .ok { scan with key := none }

/-- Remembers this place if a key may begin here. -/
def saveKey (here : Glyph) (scan : Scan) : Except Fault Scan := do
  if scan.keyAllowed then
    let scan ← scan.dropKey
    pure { scan with
      settled := scan.held ++ scan.settled
      held := []
      key := some ⟨!scan.inFlow && scan.margin = here.column + 1, here.line, here.column⟩ }
  else pure scan

/-- Whether a place is too far back for the colon of its key to stand here: the two are in one line
and at most 1024 characters apart. -/
def isStale (here : Glyph) (place : KeyPlace) : Bool :=
  place.line != here.line || place.column + 1024 < here.column

/-! ## Parts -/

/-- The glyphs behind blanks, comments and line ends, and whether a key may begin there. A line end
allows it outside braces; a tab where it is allowed is no blank. A byte order mark at the beginning
of a line is a blank, and what follows stands one column further right for it. -/
def dropGap (inFlow keyAllowed inComment : Bool) : List Glyph → Bool × List Glyph
  | [] => (keyAllowed, [])
  | glyph :: rest =>
      if isBreak glyph.char then dropGap inFlow (keyAllowed || !inFlow) false rest
      else if inComment then dropGap inFlow keyAllowed true rest
      else if glyph.char = ' ' || (glyph.char = '\t' && (inFlow || !keyAllowed))
          || (glyph.char = byteOrderMark && glyph.column = 0) then
        dropGap inFlow keyAllowed false rest
      else if glyph.char = '#' then dropGap inFlow keyAllowed true rest
      else (keyAllowed, glyph :: rest)

/-- A token that spans what a reader takes. -/
def took (result : Except Fault (Token × List Glyph)) (scan : Scan) : Except Fault Scan := do
  let (token, rest) ← result
  pure { scan.put token with rest := rest }

/-- A part of a document that is no content: all mappings in lines end before it. -/
def outside (scan : Scan) : Except Fault Scan := do
  let scan ← (scan.close fun _ => true).dropKey
  pure { scan with keyAllowed := false }

/-- Content that begins here, and that no key can directly follow. -/
def content (here : Glyph) (scan : Scan) : Except Fault Scan := do
  let scan ← scan.saveKey here
  pure { scan with keyAllowed := false }

def keySign (here : Glyph) (rest : List Glyph) (scan : Scan) : Except Fault Scan := do
  if !scan.inFlow && !scan.keyAllowed then throw .misplaced
  let scan ← (scan.openAt here.column).dropKey
  pure { scan.put .key with rest := rest, keyAllowed := !scan.inFlow }

def valueSign (here : Glyph) (rest : List Glyph) (scan : Scan) : Except Fault Scan := do
  match scan.key with
  | some place =>
    -- What stands behind the remembered place was a key: its tokens go in front of `held`.
    let before := if scan.opens place.column then .blockStart :: scan.settled else scan.settled
    let columns := if scan.opens place.column then place.column :: scan.columns else scan.columns
    pure { scan with
      rest := rest
      settled := .key :: before
      held := .value :: scan.held
      columns := columns
      keyAllowed := false
      key := none }
  | none =>
    -- The key is empty, or a sign has announced it.
    if !scan.inFlow && !scan.keyAllowed then throw .misplaced
    let scan := scan.openAt here.column
    pure { scan.put .value with rest := rest, keyAllowed := !scan.inFlow }

def blockScalar (folding : Bool) (rest : List Glyph) (scan : Scan) : Except Fault Scan := do
  let scan ← scan.dropKey
  let (text, rest) ← block folding scan.margin rest
  pure { scan.put (.scalar text false) with rest := rest, keyAllowed := true }

def plainScalar (here : Glyph) (rest : List Glyph) (scan : Scan) : Except Fault Scan := do
  let scan ← scan.content here
  let (text, broken, rest) ← plainAfter scan.inFlow scan.margin [here.char] .none rest
  pure { scan.put (.scalar text true) with rest := rest, keyAllowed := broken }

def quotedScalar (result : Except Fault (Text × List Glyph)) (scan : Scan) : Except Fault Scan :=
  scan.took do
    let (text, rest) ← result
    pure (.scalar text false, rest)

/-- The signs that no plain scalar begins with, unless what follows says otherwise. -/
def indicators : List Char :=
  ['-', '?', ':', ',', '[', ']', '\x7b', '\x7d', '#', '&', '*', '!', '|', '>', '\'', '"',
    '%', '@', '`']

/-- Whether a plain scalar begins with this sign and these glyphs behind it. -/
def beginsPlain (inFlow : Bool) (sign : Char) (rest : List Glyph) : Bool :=
  (!isGap sign && !indicators.contains sign)
    || (sign = '-' && !headIs isBlank rest)
    || (!inFlow && (sign = '?' || sign = ':') && !atGap rest)

/-! ## Steps -/

/-- The token that begins with this glyph. -/
def token (here : Glyph) (rest : List Glyph) (scan : Scan) : Except Fault Scan :=
  let sign := here.char
  -- Outside braces these signs need a gap behind them, or else they begin a plain scalar.
  let bare := scan.inFlow || atGap rest
  if here.column = 0 && sign = '%' then do (← scan.outside).took (directive rest)
  else if atMarker '-' (here :: rest) then do
    (← scan.outside).took (.ok (.documentStart, rest.drop 2))
  else if atMarker '.' (here :: rest) then do
    (← scan.outside).took (.ok (.documentEnd, rest.drop 2))
  else if sign = '[' || sign = ']' || (sign = '-' && atGap rest) then .error .collection
  else if sign = '\x7b' then
    if scan.inFlow then .error .collection
    else do
      let scan ← scan.saveKey here
      pure { scan.put .flowStart with
        rest := rest
        inFlow := true
        keyAllowed := true
        key := none }
  else if sign = '\x7d' then do
    let scan ← scan.dropKey
    pure { scan.put .flowEnd with rest := rest, inFlow := false, keyAllowed := false }
  else if sign = ',' then do
    let scan ← scan.dropKey
    pure { scan.put .flowEntry with rest := rest, keyAllowed := true }
  else if sign = '?' && bare then scan.keySign here rest
  else if sign = ':' && bare then scan.valueSign here rest
  else if sign = '*' || sign = '&' then do
    (← scan.content here).took do
      let (name, rest) ← anchorName rest
      pure (if sign = '*' then .alias name else .anchor name, rest)
  else if sign = '!' then do (← scan.content here).took (tag scan.inFlow rest)
  else if (sign = '|' || sign = '>') && !scan.inFlow then scan.blockScalar (sign = '>') rest
  else if sign = '\'' then do (← scan.content here).quotedScalar (singleQuoted [] .none rest)
  else if sign = '"' then do (← scan.content here).quotedScalar (doubleQuoted .none [] .none rest)
  else if beginsPlain scan.inFlow sign rest then scan.plainScalar here rest
  else .error .unexpectedCharacter

/-- The next token: what is too far back is forgotten first, and mappings in lines to the right of
it end before it. -/
def step (here : Glyph) (rest : List Glyph) (scan : Scan) : Except Fault Scan := do
  let scan ← if scan.key.any (isStale here) then scan.dropKey else pure scan
  token here rest (scan.close fun column => here.column < column)

def finish (scan : Scan) : Except Fault (List Token) := do
  let scan ← scan.outside
  pure ((scan.put .fileEnd).held ++ scan.settled).reverse

def run (scan : Scan) : Except Fault (List Token) :=
  match dropGap scan.inFlow scan.keyAllowed false scan.rest with
  | (_, []) => scan.finish
  | (keyAllowed, here :: rest) =>
    match step here rest { scan with keyAllowed := keyAllowed } with
    | .error fault => .error fault
    | .ok next =>
      if _h : next.rest.length < scan.rest.length then run next
      else .error .unexpectedCharacter
termination_by scan.rest.length

end Scan

/-! ## Whole files -/

def tokens (file : Text) : Except Fault (List Token) :=
  if !file.all isAllowed then .error .forbiddenCharacter
  else Scan.run { rest := glyphsFrom 0 0 file }

end ProjectFile

end ErrorCatalog
