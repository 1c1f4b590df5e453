import ErrorCatalog.Text.Basic
/-!
# UTF-8

Text as bytes. Writing is total. Reading comes in two forms: `decode?` refuses ill-formed bytes, and
`decodeLossy` puts the replacement character in the place of every maximal ill-formed part, that is,
of the longest beginning of a well-formed sequence, or of one byte where not even that can begin.
-/

namespace ErrorCatalog

abbrev Bytes := List UInt8

namespace Text

/-! ## Writing -/

/-- The byte with the six low bits of `n` that continues a sequence. -/
def continuationByte (n : Nat) : UInt8 :=
  UInt8.ofNat (0x80 + n % 0x40)

def encodeChar (c : Char) : Bytes :=
  let n := c.toNat
  if n < 0x80 then [UInt8.ofNat n]
  else if n < 0x800 then [UInt8.ofNat (0xC0 + n / 0x40), continuationByte n]
  else if n < 0x10000 then
    [UInt8.ofNat (0xE0 + n / 0x1000), continuationByte (n / 0x40), continuationByte n]
  else
    [UInt8.ofNat (0xF0 + n / 0x40000), continuationByte (n / 0x1000), continuationByte (n / 0x40),
      continuationByte n]

def encode (t : Text) : Bytes :=
  t.flatMap encodeChar

/-! ## Reading -/

/-- How a sequence of several bytes goes on after its first byte: the range of the second byte and
the number of further bytes. -/
structure Lead where
  payload : Nat
  -- The least second byte.
  low : Nat
  high : Nat
  -- The number of bytes after the second.
  more : Nat

/-- What a byte above ASCII opens: the ranges leave out overlong forms, surrogates and code points
beyond the last. -/
def Lead.ofByte? (b : Nat) : Option Lead :=
  if b < 0xC2 then none
  else if b < 0xE0 then some ⟨b - 0xC0, 0x80, 0xBF, 0⟩
  else if b = 0xE0 then some ⟨0, 0xA0, 0xBF, 1⟩
  else if b = 0xED then some ⟨0xD, 0x80, 0x9F, 1⟩
  else if b < 0xF0 then some ⟨b - 0xE0, 0x80, 0xBF, 1⟩
  else if b = 0xF0 then some ⟨0, 0x90, 0xBF, 2⟩
  else if b < 0xF4 then some ⟨b - 0xF0, 0x80, 0xBF, 2⟩
  else if b = 0xF4 then some ⟨4, 0x80, 0x8F, 2⟩
  else none

/-- The state of reading: between characters, or within one that still needs bytes. -/
inductive DecodeState where
  | ready
  -- Within a character: its bits so far, the range of the next byte and the number of bytes after
  -- it.
  | within (bits low high more : Nat)

/-- The state after the first byte of a character and what that byte alone yields: a character,
nothing yet, or `none` for a byte that begins nothing. -/
def DecodeState.begin (b : UInt8) : List (Option Char) × DecodeState :=
  if b.toNat < 0x80 then ([some (Char.ofNat b.toNat)], .ready)
  else
    match Lead.ofByte? b.toNat with
    | some lead => ([], .within lead.payload lead.low lead.high lead.more)
    | none => ([none], .ready)

/-- One byte: what it yields and the state after it. A byte that cannot continue the open character
ends that one as ill-formed and is looked at afresh. -/
def DecodeState.step (state : DecodeState) (b : UInt8) : List (Option Char) × DecodeState :=
  match state with
  | .ready => DecodeState.begin b
  | .within bits low high more =>
      if low ≤ b.toNat && b.toNat ≤ high then
        let bits := bits * 0x40 + b.toNat % 0x40
        match more with
        | 0 => ([some (Char.ofNat bits)], .ready)
        | more + 1 => ([], .within bits 0x80 0xBF more)
      else
        let (found, state) := DecodeState.begin b
        (none :: found, state)

/-- Reads bytes from a state on: characters, and `none` for each maximal ill-formed part. -/
def decodeFrom : DecodeState → Bytes → List (Option Char)
  | .ready, [] => []
  | .within .., [] => [none]
  | state, b :: rest =>
      let (found, state) := state.step b
      found ++ decodeFrom state rest

def decode? (bytes : Bytes) : Option Text :=
  (decodeFrom .ready bytes).mapM id

def replacementChar : Char :=
  Char.ofNat 0xFFFD

/-- The text of any bytes, with a replacement character for every ill-formed part. -/
def decodeLossy (bytes : Bytes) : Text :=
  (decodeFrom .ready bytes).map fun found => found.getD replacementChar

end Text

end ErrorCatalog
