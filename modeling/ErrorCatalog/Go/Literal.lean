import ErrorCatalog.Text.Blank
import ErrorCatalog.Text.Digit
import ErrorCatalog.Text.Utf8
/-!
# Go string literals

* `Go.stringLiteral` writes a text as an interpreted string literal. Backslash, quote and control
  characters are escaped; every other character stands for itself, since Go source is UTF-8.
* `Go.literalBytes?` reads the inside of such a literal the way Go does and gives the bytes of its
  value. There an escape `\xNN` is one byte, whatever character was meant by it.
-/

namespace ErrorCatalog

namespace Go

/-! ## Writing -/

/-- A number below 256 in two hexadecimal digits. -/
def hexByte (n : Nat) : Text :=
  [Nat.digitChar (n / 16), Nat.digitChar (n % 16)]

/-- A number in hexadecimal digits, at least four. -/
def hexWord (n : Nat) : Text :=
  let digits := Nat.toDigits 16 n
  List.replicate (4 - digits.length) '0' ++ digits

/-- The escape of a control character that has no short one. -/
def escapeControl (c : Char) : Text :=
  if c.toNat ≤ 0xff then '\\' :: 'x' :: hexByte c.toNat
  else '\\' :: 'u' :: hexWord c.toNat

def escapeChar (c : Char) : Text :=
  if c = '\\' then ['\\', '\\']
  else if c = '"' then ['\\', '"']
  else if c = '\n' then ['\\', 'n']
  else if c = '\r' then ['\\', 'r']
  else if c = '\t' then ['\\', 't']
  else if Text.isControl c then escapeControl c
  else [c]

def escape (t : Text) : Text :=
  t.flatMap escapeChar

def stringLiteral (t : Text) : Text :=
  '"' :: (escape t ++ ['"'])

/-! ## Reading -/

def hexNumber? (digits : Text) : Option Nat :=
  digits.foldlM (fun n c => (Text.hexValue? c).map (16 * n + ·)) 0

/-- The bytes that the inside of an interpreted literal denotes; `none` when it holds a bare quote,
a line feed or an escape other than those that `escape` and Go's two-digit and four-digit forms
use. -/
def literalBytes? : Text → Option Bytes
  | [] => some []
  | '\\' :: '\\' :: rest => (literalBytes? rest).map (Text.encodeChar '\\' ++ ·)
  | '\\' :: '"' :: rest => (literalBytes? rest).map (Text.encodeChar '"' ++ ·)
  | '\\' :: 'n' :: rest => (literalBytes? rest).map (Text.encodeChar '\n' ++ ·)
  | '\\' :: 'r' :: rest => (literalBytes? rest).map (Text.encodeChar '\r' ++ ·)
  | '\\' :: 't' :: rest => (literalBytes? rest).map (Text.encodeChar '\t' ++ ·)
  | '\\' :: 'x' :: high :: low :: rest => do
      let n ← hexNumber? [high, low]
      let behind ← literalBytes? rest
      some (UInt8.ofNat n :: behind)
  | '\\' :: 'u' :: a :: b :: c :: d :: rest => do
      let n ← hexNumber? [a, b, c, d]
      let char ← Text.ofCodePoint? n
      let behind ← literalBytes? rest
      some (Text.encodeChar char ++ behind)
  | c :: rest =>
      if c = '\\' || c = '"' || c = '\n' then none
      else (literalBytes? rest).map (Text.encodeChar c ++ ·)

end Go

end ErrorCatalog
