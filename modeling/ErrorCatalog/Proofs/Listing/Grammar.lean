import ErrorCatalog.Go.Literal
import ErrorCatalog.Listing.Json
import ErrorCatalog.Proofs.Text.Numeral
/-!
# The JSON grammar

Which texts are JSON, and what each of them denotes, whoever wrote it: any blanks, any spelling of a
string or a number, any nesting. Each notation is a relation between what is denoted and the texts
that denote it, with one constructor for each production of the grammar.

A number is kept as it is written, a significand and a power of ten, so that nothing has to be
rounded. An object keeps its members in order, and two of them may share a name.
-/

namespace ErrorCatalog

namespace Listing

namespace Json

inductive Value where
  | null
  | bool (b : Bool)
  -- The significand times ten to the power of the exponent.
  | number (significand exponent : Int)
  | string (t : Text)
  | array (items : List Value)
  | object (members : List (Text × Value))

/-! ## Blanks -/

def isGapChar (c : Char) : Bool :=
  c = ' ' || c = '\t' || c = '\n' || c = '\r'

/-- A possibly empty run of such characters. -/
def IsGap (w : Text) : Prop :=
  ∀ c ∈ w, isGapChar c = true

theorem isGap_nil : IsGap [] := by
  simp [IsGap]

/-! ## Strings -/

/-- The characters that a letter or sign behind a backslash stands for. -/
def escapeSigns : List (Char × Char) :=
  [('"', '"'), ('\\', '\\'), ('/', '/'), ('b', '\x08'), ('f', '\x0c'), ('n', '\n'), ('r', '\r'),
    ('t', '\t')]

/-- Whether a character may stand for itself inside a string. -/
def isPlain (c : Char) : Bool :=
  0x20 ≤ c.toNat && c ≠ '"' && c ≠ '\\'

/-- An escape by number: four hexadecimal digits in either case. -/
inductive IsCodeUnit : Nat → Text → Prop where
  | mk {a b c d : Char} {n : Nat} (h : Go.hexNumber? [a, b, c, d] = some n) :
      IsCodeUnit n ['\\', 'u', a, b, c, d]

/-- The character beyond `\uFFFF` that two surrogates stand for together. -/
def surrogatePair? (high low : Nat) : Option Char :=
  if 0xD800 ≤ high ∧ high < 0xDC00 ∧ 0xDC00 ≤ low ∧ low < 0xE000 then
    Text.ofCodePoint? (0x10000 + (high - 0xD800) * 0x400 + (low - 0xDC00))
  else none

/-- The ways to write a character inside a string. A surrogate alone stands for no character. -/
inductive IsCharacter : Char → Text → Prop where
  | plain {c : Char} (h : isPlain c = true) : IsCharacter c [c]
  | sign {d c : Char} (h : escapeSigns.lookup d = some c) : IsCharacter c ['\\', d]
  | unit {n : Nat} {c : Char} {w : Text} (hw : IsCodeUnit n w) (hc : Text.ofCodePoint? n = some c) :
      IsCharacter c w
  | pair {m n : Nat} {c : Char} {u w : Text} (hu : IsCodeUnit m u) (hw : IsCodeUnit n w)
      (hc : surrogatePair? m n = some c) : IsCharacter c (u ++ w)

inductive IsInside : Text → Text → Prop where
  | nil : IsInside [] []
  | cons {c : Char} {t w u : Text} (h : IsCharacter c w) (hs : IsInside t u) :
      IsInside (c :: t) (w ++ u)

inductive IsString : Text → Text → Prop where
  | mk {t u : Text} (h : IsInside t u) : IsString t ('"' :: (u ++ ['"']))

/-! ## Numbers -/

inductive IsSign : Int → Text → Prop where
  | none : IsSign 1 []
  | plus : IsSign 1 ['+']
  | minus : IsSign (-1) ['-']

/-- The digits in front of the point. None but a zero alone begins with zero. -/
structure IsWhole (digits : Text) : Prop extends Text.IsNumeral digits where
  eq_zero : digits.head? = some '0' → digits = ['0']

inductive IsFraction : Text → Text → Prop where
  | absent : IsFraction [] []
  | digits {w : Text} (h : Text.IsNumeral w) : IsFraction w ('.' :: w)

inductive IsExponent : Int → Text → Prop where
  | absent : IsExponent 0 []
  | digits {marker : Char} {s : Int} {u w : Text} (hmarker : marker = 'e' ∨ marker = 'E')
      (hs : IsSign s u) (h : Text.IsNumeral w) :
      IsExponent (s * Text.numeralValue w) (marker :: (u ++ w))

/-- A number by its significand and its exponent. A plus sign may stand in the exponent only. -/
inductive IsNumber : Int → Int → Text → Prop where
  | mk {s k : Int} {a b f c d : Text} (hs : IsSign s a) (hplus : a ≠ ['+']) (hb : IsWhole b)
      (hf : IsFraction f c) (hk : IsExponent k d) :
      IsNumber (s * Text.numeralValue (b ++ f)) (k - f.length) (a ++ b ++ c ++ d)

/-! ## Values -/

def words : List (Text × Value) :=
  [("null", .null), ("true", .bool true), ("false", .bool false)]

inductive Phrase where
  | value (v : Value)
  | text (v : Value)
  -- The items of an array, at least one.
  | items (vs : List Value)
  | member (m : Text × Value)
  -- The members of an object, at least one.
  | members (ms : List (Text × Value))

/-- `IsWritten p t` says that the text `t` is a way to write `p`. -/
inductive IsWritten : Phrase → Text → Prop where
  | word {t : Text} {v : Value} (h : (t, v) ∈ words) : IsWritten (.value v) t
  | number {m k : Int} {t : Text} (h : IsNumber m k t) : IsWritten (.value (.number m k)) t
  | string {s t : Text} (h : IsString s t) : IsWritten (.value (.string s)) t
  | emptyArray {w : Text} (hw : IsGap w) : IsWritten (.value (.array [])) ('[' :: (w ++ [']']))
  | array {vs : List Value} {t : Text} (h : IsWritten (.items vs) t) :
      IsWritten (.value (.array vs)) ('[' :: (t ++ [']']))
  | emptyObject {w : Text} (hw : IsGap w) :
      IsWritten (.value (.object [])) ('\x7b' :: (w ++ ['\x7d']))
  | object {ms : List (Text × Value)} {t : Text} (h : IsWritten (.members ms) t) :
      IsWritten (.value (.object ms)) ('\x7b' :: (t ++ ['\x7d']))
  | text {v : Value} {u t w : Text} (hu : IsGap u) (h : IsWritten (.value v) t) (hw : IsGap w) :
      IsWritten (.text v) (u ++ t ++ w)
  | lastItem {v : Value} {t : Text} (h : IsWritten (.text v) t) : IsWritten (.items [v]) t
  | item {v : Value} {vs : List Value} {t u : Text} (h : IsWritten (.text v) t)
      (hs : IsWritten (.items vs) u) : IsWritten (.items (v :: vs)) (t ++ ',' :: u)
  | member {name : Text} {v : Value} {u n w t : Text} (hu : IsGap u) (hn : IsString name n)
      (hw : IsGap w) (h : IsWritten (.text v) t) :
      IsWritten (.member (name, v)) (u ++ n ++ w ++ ':' :: t)
  | lastMember {m : Text × Value} {t : Text} (h : IsWritten (.member m) t) :
      IsWritten (.members [m]) t
  | moreMembers {m : Text × Value} {ms : List (Text × Value)} {t u : Text}
      (h : IsWritten (.member m) t) (hs : IsWritten (.members ms) u) :
      IsWritten (.members (m :: ms)) (t ++ ',' :: u)

end Json

end Listing

end ErrorCatalog
