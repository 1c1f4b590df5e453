import ErrorCatalog.ProjectFile.Glyph
import ErrorCatalog.Text.Digit
/-!
# Scalars of project files

A scalar is a text in one of five spellings: plain, in single quotes, in double quotes, or as a
block of lines that are kept or folded. Each reader here starts behind the sign that opens its
spelling and gives the text with the glyphs behind it.

Where a plain or quoted scalar goes on in another line, the gap between is folded: one line end
becomes a space, of several the first is dropped. Blanks around line ends are lost, other blanks are
kept.
-/

namespace ErrorCatalog

namespace ProjectFile

/-! ## Gaps -/

/-- Blanks and line ends met since the last character of a scalar; texts are reversed. -/
inductive Gap where
  | blanks (seen : Text)
  -- A first line end and the line ends after it.
  | folded (first : Char) (more : Text)
  -- Line ends after one that was escaped.
  | escaped (more : Text)

namespace Gap

def none : Gap :=
  .blanks []

def isNone : Gap → Bool
  | .blanks seen => seen.isEmpty
  | _ => false

/-- Whether the gap reaches into another line. -/
def isBroken : Gap → Bool
  | .blanks _ => false
  | _ => true

def add (c : Char) : Gap → Gap
  | .blanks seen => if isBreak c then .folded c [] else .blanks (c :: seen)
  | .folded first more => if isBreak c then .folded first (c :: more) else .folded first more
  | .escaped more => if isBreak c then .escaped (c :: more) else .escaped more

/-- What a gap between two characters of a scalar stands for. -/
def text : Gap → Text
  | .blanks seen => seen.reverse
  | .folded first more =>
      if first != '\n' then first :: more.reverse
      else if more.isEmpty then [' '] else more.reverse
  | .escaped more => more.reverse

/-- A reversed text with what the gap stands for behind it. -/
def close (gap : Gap) (before : Text) : Text :=
  gap.text.reverse ++ before

end Gap

/-! ## Plain scalars -/

/-- Whether a plain scalar ends before these glyphs. -/
def endsPlain (inFlow : Bool) : List Glyph → Bool
  | [] => true
  | glyph :: rest =>
      (glyph.char = ':' && atGap rest)
        || (inFlow && [',', '[', ']', '\x7b', '\x7d'].contains glyph.char)

/-- Whether a colon stands here that is neither part of a plain scalar nor its end. -/
def strayColon (inFlow : Bool) : List Glyph → Bool
  | [] => false
  | glyph :: rest =>
      inFlow && glyph.char = ':' && headIs [',', '?', '[', ']', '\x7b', '\x7d'].contains rest

/-- A plain scalar that has begun: its text, whether the gap behind it reaches into another line,
and the glyphs behind that gap. Outside flow it goes on only at columns from `margin` on. -/
def plainAfter (inFlow : Bool) (margin : Nat) (text : Text) (gap : Gap) :
    List Glyph → Except Fault (Text × Bool × List Glyph)
  | [] => .ok (text.reverse, gap.isBroken, [])
  | glyph :: rest =>
      if isGap glyph.char then
        -- A tab may not stand where a line is still being indented.
        if gap.isBroken && glyph.char = '\t' && glyph.column < margin then .error .tabIndentation
        else plainAfter inFlow margin text (gap.add glyph.char) rest
      else if !gap.isNone
          && ((!inFlow && glyph.column < margin) || atDocumentMarker (glyph :: rest)
            || glyph.char = '#') then
        .ok (text.reverse, gap.isBroken, glyph :: rest)
      else if strayColon inFlow (glyph :: rest) then .error .misplaced
      else if endsPlain inFlow (glyph :: rest) then .ok (text.reverse, gap.isBroken, glyph :: rest)
      else plainAfter inFlow margin (glyph.char :: gap.close text) .none rest

/-! ## Quoted scalars -/

/-- The rest of a scalar in single quotes. A quote inside is written twice. -/
def singleQuoted (text : Text) (gap : Gap) : List Glyph → Except Fault (Text × List Glyph)
  | [] => .error .openQuote
  | glyph :: rest =>
      if isGap glyph.char then singleQuoted text (gap.add glyph.char) rest
      else if atDocumentMarker (glyph :: rest) then .error .openQuote
      else if glyph.char = '\'' then
        match rest with
        | [] => .ok ((gap.close text).reverse, [])
        | next :: behind =>
            -- Only a second quote tells that the first did not end the scalar.
            if next.char = '\'' then singleQuoted ('\'' :: gap.close text) .none behind
            else .ok ((gap.close text).reverse, next :: behind)
      else singleQuoted (glyph.char :: gap.close text) .none rest

/-- The characters that a backslash and one sign stand for. -/
def simpleEscapes : List (Char × Char) :=
  [('0', '\x00'), ('a', '\x07'), ('b', '\x08'), ('t', '\t'), ('\t', '\t'), ('n', '\n'),
    ('v', '\x0b'), ('f', '\x0c'), ('r', '\r'), ('e', '\x1b'), (' ', ' '), ('"', '"'), ('/', '/'),
    ('\\', '\\'),
    ('N', nextLine), ('_', Char.ofNat 0xA0), ('L', lineSeparator), ('P', paragraphSeparator)]

/-- The numbers of hexadecimal digits behind the signs of numeric escapes. -/
def numericEscapes : List (Char × Nat) :=
  [('x', 2), ('u', 4), ('U', 8)]

inductive Escape where
  | none
  | backslash
  -- Part of a numeric escape: its value so far and the number of digits after the next.
  | digits (value more : Nat)

def doubleQuoted (escape : Escape) (text : Text) (gap : Gap) :
    List Glyph → Except Fault (Text × List Glyph)
  | [] => .error .openQuote
  | glyph :: rest =>
    match escape with
    | .digits value more =>
      match Text.hexValue? glyph.char with
      | none => .error .unknownEscape
      | some digit =>
        match more with
        | more + 1 => doubleQuoted (.digits (16 * value + digit) more) text gap rest
        | 0 =>
          match Text.ofCodePoint? (16 * value + digit) with
          | none => .error .unknownEscape
          | some c => doubleQuoted .none (c :: text) .none rest
    | .backslash =>
      -- An escaped line end joins two lines with nothing between.
      if isBreak glyph.char then doubleQuoted .none text (.escaped []) rest
      else
        match simpleEscapes.lookup glyph.char, numericEscapes.lookup glyph.char with
        | some c, _ => doubleQuoted .none (c :: text) .none rest
        | none, some count => doubleQuoted (.digits 0 (count - 1)) text .none rest
        | none, none => .error .unknownEscape
    | .none =>
      if isGap glyph.char then doubleQuoted .none text (gap.add glyph.char) rest
      else if atDocumentMarker (glyph :: rest) then .error .openQuote
      else if glyph.char = '"' then .ok ((gap.close text).reverse, rest)
      else if glyph.char = '\\' then doubleQuoted .backslash (gap.close text) .none rest
      else doubleQuoted .none (glyph.char :: gap.close text) .none rest

/-! ## Blocks of lines -/

inductive Chomping where
  -- One stays.
  | clip
  -- None stays.
  | strip
  -- All stay.
  | keep
  deriving DecidableEq

structure Line where
  content : List Glyph
  -- The end of the line; the last line of a file may have none.
  ending : Option Glyph

def linesOf : List Glyph → List Line
  | [] => []
  | glyph :: rest =>
      if isBreak glyph.char then ⟨[], some glyph⟩ :: linesOf rest
      else
        match linesOf rest with
        | [] => [⟨[glyph], none⟩]
        | line :: others => ⟨glyph :: line.content, line.ending⟩ :: others

def glyphsOf (lines : List Line) : List Glyph :=
  lines.flatMap fun line => line.content ++ line.ending.toList

/-- The sign at the head of a block that says what becomes of its line ends, if there is one. -/
def chompingSign : List Glyph → Option Chomping × List Glyph
  | [] => (none, [])
  | glyph :: rest =>
      if glyph.char = '+' then (some .keep, rest)
      else if glyph.char = '-' then (some .strip, rest)
      else (none, glyph :: rest)

/-- The digit at the head of a block that says how far it is indented; 0 when there is none. -/
def indentSign : List Glyph → Except Fault (Nat × List Glyph)
  | [] => .ok (0, [])
  | glyph :: rest =>
      if !glyph.char.isDigit then .ok (0, glyph :: rest)
      else if glyph.char = '0' then .error .blockHead
      else .ok (glyph.char.toNat - '0'.toNat, rest)

/-- The head of a block, up to the end of its line. The two signs may stand in either order. -/
def blockHead (glyphs : List Glyph) : Except Fault (Chomping × Nat × List Glyph) := do
  -- The second look is for a sign behind the digit.
  let (early, rest) := chompingSign glyphs
  let (indent, rest) ← indentSign rest
  let (late, rest) := if early.isNone && indent != 0 then chompingSign rest else (none, rest)
  let rest := dropBlanks rest
  let rest := if headIs (· = '#') rest then dropLine rest else rest
  match rest with
  | [] => pure ((early.or late).getD .clip, indent, [])
  | glyph :: rest =>
      if isBreak glyph.char then pure ((early.or late).getD .clip, indent, rest)
      else throw .blockHead

/-- The column at which the lines of a block begin, as its first lines show it: the empty lines
before the first line with text count as well. Gives the ends of these lines and the lines from that
one on. -/
def blockIndent (widest : Nat) : List Line → Except Fault (Nat × Text × List Line)
  | [] => .ok (widest, [], [])
  | line :: rest =>
      let spaces := (line.content.takeWhile fun glyph => glyph.char = ' ').length
      let widest := Nat.max widest spaces
      match line.content.drop spaces, line.ending with
      | [], some ending => do
          let (indent, breaks, rest) ← blockIndent widest rest
          pure (indent, ending.char :: breaks, rest)
      | [], none => .ok (widest, [], line :: rest)
      | first :: _, _ =>
          if first.char = '\t' then .error .tabIndentation else .ok (widest, [], line :: rest)

structure BlockState where
  -- The text up to the end of the last line with text.
  text : Text
  lineEnd : Text
  -- The ends of the empty lines after it.
  emptyEnds : Text
  -- Whether that line begins with a blank.
  startsBlank : Bool

/-- The text before another line: lines without blanks at their beginning are folded into one. -/
def BlockState.join (folding : Bool) (state : BlockState) (startsBlank : Bool) : Text :=
  if folding && state.lineEnd = ['\n'] && !state.startsBlank && !startsBlank then
    state.text ++ (if state.emptyEnds.isEmpty then [' '] else state.emptyEnds)
  else state.text ++ state.lineEnd ++ state.emptyEnds

/-- The lines of a block that is indented by `indent`, and the lines behind it. -/
def blockLines (folding : Bool) (indent : Nat) (state : BlockState) :
    List Line → Except Fault (BlockState × List Line)
  | [] => .ok (state, [])
  | line :: rest =>
      let spaces := ((line.content.takeWhile fun glyph => glyph.char = ' ').take indent).length
      match line.content.drop spaces, line.ending with
      | [], some ending =>
          let emptyEnds := state.emptyEnds ++ [ending.char]
          blockLines folding indent { state with emptyEnds := emptyEnds } rest
      | [], none => .ok (state, line :: rest)
      | first :: others, _ =>
          if spaces < indent then
            if first.char = '\t' then .error .tabIndentation else .ok (state, line :: rest)
          else
            let startsBlank := isBlank first.char
            blockLines folding indent {
              text := state.join folding startsBlank ++ (first :: others).map Glyph.char
              lineEnd := (line.ending.map Glyph.char).toList
              emptyEnds := []
              startsBlank := startsBlank } rest

/-- A block of lines, from behind the sign that opens it. -/
def block (folding : Bool) (margin : Nat) (glyphs : List Glyph) :
    Except Fault (Text × List Glyph) := do
  let (chomping, given, rest) ← blockHead glyphs
  -- A digit counts from the mapping around the block, whose column is one less than `margin`.
  let (indent, breaks, lines) ←
    if given = 0 then do
      let (widest, breaks, lines) ← blockIndent 0 (linesOf rest)
      pure (Nat.max (Nat.max widest margin) 1, breaks, lines)
    else pure (margin - 1 + given, [], linesOf rest)
  let (state, behind) ← blockLines folding indent ⟨[], [], breaks, false⟩ lines
  let text := match chomping with
    | .strip => state.text
    | .clip => state.text ++ state.lineEnd
    | .keep => state.text ++ state.lineEnd ++ state.emptyEnds
  pure (text, glyphsOf behind)

end ProjectFile

end ErrorCatalog
