import ErrorCatalog.Text.Grapheme.Table
/-!
# Grapheme clusters

Cuts a text into the units a reader sees as one character, by the extended rules of the Unicode
standard for grapheme clusters. Whether a character joins the cluster before it depends on that
cluster alone, which is kept reversed, so that its last character is at hand.

Three rules look further back than one character: a joiner ties two pictographs together, a linker
the consonants of an Indic conjunct, and regional indicators come in pairs.
-/

namespace ErrorCatalog

namespace Text

/-! ## Classes -/

/-- The break class of a character, as far as the rules tell classes apart. -/
inductive BreakClass where
  | carriageReturn
  | lineFeed
  | control
  | extend
  | joiner
  | spacingMark
  | prepend
  | regional
  | leading
  | vowel
  | trailing
  | syllableOpen
  | syllableClosed
  | other
  deriving DecidableEq, Repr

/-- Leading consonants of Hangul syllables. -/
def hangulLeadingRanges : Ranges :=
  [(0x1100, 0x115F), (0xA960, 0xA97C)]

/-- Vowels that follow a leading consonant or another vowel. -/
def hangulVowelRanges : Ranges :=
  [(0x1160, 0x11A7), (0xD7B0, 0xD7C6), (0x16D63, 0x16D63), (0x16D67, 0x16D6A)]

/-- Trailing consonants of Hangul syllables. -/
def hangulTrailingRanges : Ranges :=
  [(0x11A8, 0x11FF), (0xD7CB, 0xD7FB)]

/-- The break class of a character. A syllable is open when its number in the block is a multiple of
28, the number of trailing consonants with none among them. -/
def breakClass (c : Char) : BreakClass :=
  let n := c.toNat
  if c = '\r' then .carriageReturn
  else if c = '\n' then .lineFeed
  else if GraphemeTable.controlRanges.contains n then .control
  else if n = 0x200D then .joiner
  else if GraphemeTable.extendRanges.contains n then .extend
  else if GraphemeTable.spacingMarkRanges.contains n then .spacingMark
  else if GraphemeTable.prependRanges.contains n then .prepend
  else if 0x1F1E6 ≤ n && n ≤ 0x1F1FF then .regional
  else if hangulLeadingRanges.contains n then .leading
  else if hangulVowelRanges.contains n then .vowel
  else if hangulTrailingRanges.contains n then .trailing
  else if 0xAC00 ≤ n && n ≤ 0xD7A3 then
    if (n - 0xAC00) % 28 = 0 then .syllableOpen else .syllableClosed
  else .other

def isPictograph (c : Char) : Bool :=
  GraphemeTable.pictographRanges.contains c.toNat

/-- Whether a character ties the consonants of an Indic conjunct together. -/
def isLinker (c : Char) : Bool :=
  GraphemeTable.linkerRanges.contains c.toNat

def isConjunctConsonant (c : Char) : Bool :=
  GraphemeTable.consonantRanges.contains c.toNat

/-- The sign that keeps two characters from being joined. -/
def nonJoiner : Char :=
  Char.ofNat 0x200C

/-- Whether a character may stand between the consonants of a conjunct. -/
def isConjunctMark (c : Char) : Bool :=
  (breakClass c = .extend || breakClass c = .joiner) && c != nonJoiner

/-! ## Boundaries -/

/-- Whether the reversed text ends in a pictograph, any number of extending characters and a
joiner. -/
def endsInJoinedPictograph : Text → Bool
  | [] => false
  | c :: before =>
      breakClass c = .joiner &&
        (before.dropWhile fun d => breakClass d = .extend).head?.any isPictograph

/-- Whether the reversed text ends in a consonant and marks behind it, a linker among them. -/
def endsInOpenConjunct (before : Text) : Bool :=
  (before.takeWhile isConjunctMark).any isLinker
    && (before.dropWhile isConjunctMark).head?.any isConjunctConsonant

/-- Whether an odd number of regional indicators stands at the end of the reversed text. -/
def endsInOpenFlag (before : Text) : Bool :=
  (before.takeWhile fun d => breakClass d = .regional).length % 2 = 1

/-- Whether `next` belongs to the cluster whose characters are, in reverse, `last :: before`. -/
def joins (last : Char) (before : Text) (next : Char) : Bool :=
  match breakClass last, breakClass next with
  | .carriageReturn, .lineFeed => true
  | .carriageReturn, _ | .lineFeed, _ | .control, _ => false
  | _, .carriageReturn | _, .lineFeed | _, .control => false
  | .leading, .leading | .leading, .vowel => true
  | .leading, .syllableOpen | .leading, .syllableClosed => true
  | .syllableOpen, .vowel | .syllableOpen, .trailing | .vowel, .vowel | .vowel, .trailing => true
  | .syllableClosed, .trailing | .trailing, .trailing => true
  | _, .extend | _, .joiner | _, .spacingMark => true
  | .prepend, _ => true
  | .regional, .regional => endsInOpenFlag (last :: before)
  | _, _ =>
      (isConjunctConsonant next && endsInOpenConjunct (last :: before))
        || (isPictograph next && endsInJoinedPictograph (last :: before))

/-- The clusters of `rest` when `last :: before` is the reversed start of the first of them. -/
def clustersAfter (last : Char) (before : Text) : Text → List Text
  | [] => [(last :: before).reverse]
  | next :: rest =>
      if joins last before next then clustersAfter next (last :: before) rest
      else (last :: before).reverse :: clustersAfter next [] rest

def clusters : Text → List Text
  | [] => []
  | c :: rest => clustersAfter c [] rest

/-! ## First facts -/

/-- The clusters of a text begun before hold that beginning and the text, in order. -/
theorem flatten_clustersAfter (last : Char) (before rest : Text) :
    (clustersAfter last before rest).flatten = (last :: before).reverse ++ rest := by
  induction rest generalizing last before with
  | nil => simp [clustersAfter]
  | cons next rest ih =>
    unfold clustersAfter
    split <;> simp [ih]

/-- The clusters of a text put together again are the text. -/
theorem flatten_clusters (t : Text) : (clusters t).flatten = t := by
  cases t with
  | nil => rfl
  | cons c rest => simp [clusters, flatten_clustersAfter]

end Text

end ErrorCatalog
