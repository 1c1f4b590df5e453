import ErrorCatalog.Proofs.Go.FreeText
import ErrorCatalog.Proofs.Go.Identifier
import ErrorCatalog.Proofs.Text.Numeral
/-!
# Tokens of Go source

Readers for the tokens that generated source is made of: identifiers, decimal integers and string
literals. Each takes one token from the front of a text and leaves what follows it, and each finds
again what was written in front of a text that does not go on with the same token.
-/

namespace ErrorCatalog

namespace Go

variable {t rest : Text}

/-! ## Identifiers -/

def identifierToken? (t : Text) : Option (Text × Text) :=
  let word := t.takeWhile isWordChar
  if isIdentifier word then some (word, t.dropWhile isWordChar) else none

/-- An identifier is read up to where it ends. -/
theorem identifierToken?_append (h : isIdentifier t = true) (hrest : Text.Stops isWordChar rest) :
    identifierToken? (t ++ rest) = some (t, rest) := by
  have hword := isWordChar_of_isIdentifier h
  simp [identifierToken?, Text.takeWhile_append_of_stops hword hrest,
    Text.dropWhile_append_of_stops hword hrest, h]

/-! ## Integers -/

/-- The decimal numeral that a text starts with, and what follows it. A numeral with leading zeros
is of another base in Go and is not read. -/
def naturalToken? (t : Text) : Option (Nat × Text) :=
  let digits := t.takeWhile Char.isDigit
  let n := Text.numeralValue digits
  if Text.ofNat n = digits then some (n, t.dropWhile Char.isDigit) else none

def integerToken? : Text → Option (Int × Text)
  | '-' :: rest => (naturalToken? rest).map (Prod.map (fun n : Nat => -(n : Int)) id)
  | t => (naturalToken? t).map (Prod.map Int.ofNat id)

/-- A number is read back from its digits. -/
theorem naturalToken?_ofNat (n : Nat) (hrest : Text.Stops Char.isDigit rest) :
    naturalToken? (Text.ofNat n ++ rest) = some (n, rest) := by
  have hdigits := (Text.isNumeral_ofNat n).isDigit
  simp [naturalToken?, Text.takeWhile_append_of_stops hdigits hrest,
    Text.dropWhile_append_of_stops hdigits hrest, Text.numeralValue_ofNat]

/-- Without a sign an integer is a number. -/
theorem integerToken?_of_ne_minus (h : ∀ c ∈ t.head?, c ≠ '-') :
    integerToken? t = (naturalToken? t).map (Prod.map Int.ofNat id) := by
  unfold integerToken?
  split
  · next others => exact absurd rfl (h '-' rfl)
  · rfl

/-- An integer is read back from its digits and sign. -/
theorem integerToken?_ofInt (i : Int) (hrest : Text.Stops Char.isDigit rest) :
    integerToken? (Text.ofInt i ++ rest) = some (i, rest) := by
  cases i with
  | ofNat n =>
    -- No minus sign is taken where the number has none.
    have hhead : ∀ c ∈ (Text.ofNat n ++ rest).head?, c ≠ '-' := by
      intro c hc
      rw [List.head?_append_of_ne_nil _ (Text.isNumeral_ofNat n).ne_nil] at hc
      have hdigit := (Text.isNumeral_ofNat n).isDigit c (List.mem_of_mem_head? hc)
      exact ne_of_isWordChar (isWordChar_of_isDigit hdigit) rfl
    change integerToken? (Text.ofNat n ++ rest) = _
    rw [integerToken?_of_ne_minus hhead, naturalToken?_ofNat n hrest]
    rfl
  | negSucc n =>
    change (naturalToken? (Text.ofNat (n + 1) ++ rest)).map _ = _
    rw [naturalToken?_ofNat (n + 1) hrest]
    rfl

end Go

end ErrorCatalog
