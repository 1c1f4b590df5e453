import ErrorCatalog.Go.Comment
import ErrorCatalog.Go.Literal
import ErrorCatalog.Proofs.Text.Scan
/-!
# Free text in Go source

Any text may be written as a string literal or put behind `//`. Neither form has a control
character, so neither leaves its line. A literal says where it ends, whatever follows it, and
different texts have different literals.
-/

namespace ErrorCatalog

namespace Go

variable {c : Char} {t w rest : Text}

/-! ## Hexadecimal digits -/

/-- A hexadecimal digit has its value and is none of the characters a literal must hide. -/
theorem digitChar_of_lt {n : Nat} (h : n < 16) :
    Text.hexValue? (Nat.digitChar n) = some n ∧ Text.isControl (Nat.digitChar n) = false
      ∧ Nat.digitChar n ≠ '"' ∧ Nat.digitChar n ≠ '\\' := by
  have hall : ∀ n < 16, Text.hexValue? (Nat.digitChar n) = some n
      ∧ Text.isControl (Nat.digitChar n) = false
      ∧ Nat.digitChar n ≠ '"' ∧ Nat.digitChar n ≠ '\\' := by
    decide
  exact hall n h

/-- A control character has a code point of two hexadecimal digits. -/
theorem toNat_lt_of_isControl (h : Text.isControl c = true) : c.toNat < 256 := by
  simp only [Text.isControl, Bool.or_eq_true, Bool.and_eq_true, decide_eq_true_eq] at h
  omega

/-- The form with four digits is never used: no control character is so large. -/
theorem escapeControl_of_isControl (h : Text.isControl c = true) :
    escapeControl c = '\\' :: 'x' :: hexByte c.toNat :=
  if_pos (Nat.le_of_lt_succ (toNat_lt_of_isControl h))

/-- Two digits are enough for a byte. -/
theorem hexNumber?_hexByte {n : Nat} (h : n < 256) : hexNumber? (hexByte n) = some n := by
  have hhigh := (digitChar_of_lt (n := n / 16) (by omega)).1
  have hlow := (digitChar_of_lt (n := n % 16) (by omega)).1
  have hvalue : 16 * (n / 16) + n % 16 = n := Nat.div_add_mod n 16
  simp [hexNumber?, hexByte, hhigh, hlow, hvalue]

/-! ## How a character is written -/

/-- The characters with a letter or sign that stands for them behind a backslash. -/
def shortEscapes : List (Char × Char) :=
  [('\\', '\\'), ('"', '"'), ('\n', 'n'), ('\r', 'r'), ('\t', 't')]

/-- The three ways to write a character inside a literal. -/
inductive IsWritten : Char → Text → Prop where
  | short {c d : Char} (h : (c, d) ∈ shortEscapes) : IsWritten c ['\\', d]
  | hex {c : Char} (h : c.toNat < 256) : IsWritten c ('\\' :: 'x' :: hexByte c.toNat)
  | plain {c : Char} (hquote : c ≠ '"') (hbackslash : c ≠ '\\')
      (hcontrol : Text.isControl c = false) : IsWritten c [c]

/-- Escaping writes every character in a form the literal has for it. -/
theorem isWritten_escapeChar (c : Char) : IsWritten c (escapeChar c) := by
  unfold escapeChar
  split_ifs with hbackslash hquote hfeed hreturn htab hcontrol
  · exact .short (by simp [shortEscapes, hbackslash])
  · exact .short (by simp [shortEscapes, hquote])
  · exact .short (by simp [shortEscapes, hfeed])
  · exact .short (by simp [shortEscapes, hreturn])
  · exact .short (by simp [shortEscapes, htab])
  · rw [escapeControl_of_isControl hcontrol]
    exact .hex (toNat_lt_of_isControl hcontrol)
  · exact .plain hquote hbackslash (by simpa using hcontrol)

/-! ## Where a literal ends -/

/-- The rest of a literal up to its closing quote, and what follows it. A backslash takes the next
character with it. -/
def untilQuote? : Text → Option (Text × Text)
  | [] => none
  | ['\\'] => none
  | '\\' :: c :: rest => (untilQuote? rest).map (Prod.map ('\\' :: c :: ·) id)
  | c :: rest =>
      if c = '"' then some (['"'], rest) else (untilQuote? rest).map (Prod.map (c :: ·) id)

def literalToken? : Text → Option (Text × Text)
  | '"' :: rest => (untilQuote? rest).map (Prod.map ('"' :: ·) id)
  | _ => none

theorem untilQuote?_cons_of_ne (hquote : c ≠ '"') (hbackslash : c ≠ '\\') :
    untilQuote? (c :: rest) = (untilQuote? rest).map (Prod.map (c :: ·) id) := by
  simp [untilQuote?, hquote, hbackslash]

theorem IsWritten.untilQuote? (h : IsWritten c w) (rest : Text) :
    untilQuote? (w ++ rest) = (untilQuote? rest).map (Prod.map (w ++ ·) id) := by
  cases h with
  | short h => rfl
  | hex h =>
    -- Behind the backslash and its letter the digits are characters like any others.
    rcases digitChar_of_lt (n := c.toNat / 16) (by omega) with ⟨-, -, hquote, hbackslash⟩
    rcases digitChar_of_lt (n := c.toNat % 16) (by omega) with ⟨-, -, hquote', hbackslash'⟩
    simp only [hexByte, List.cons_append, List.nil_append, Go.untilQuote?,
      untilQuote?_cons_of_ne hquote hbackslash, untilQuote?_cons_of_ne hquote' hbackslash']
    cases Go.untilQuote? rest with
    | none => rfl
    | some found => rfl
  | plain hquote hbackslash hcontrol => exact untilQuote?_cons_of_ne hquote hbackslash

/-- The first quote behind an escaped text is the one that closes the literal. -/
theorem untilQuote?_escape (t rest : Text) :
    untilQuote? (escape t ++ '"' :: rest) = some (escape t ++ ['"'], rest) := by
  induction t with
  | nil => rfl
  | cons c t ih =>
    have hfirst := (isWritten_escapeChar c).untilQuote? (escape t ++ '"' :: rest)
    simp only [escape, List.flatMap_cons, List.append_assoc] at hfirst ih ⊢
    rw [hfirst, ih]
    rfl

/-- A literal is found again in front of anything. -/
theorem literalToken?_stringLiteral (t rest : Text) :
    literalToken? (stringLiteral t ++ rest) = some (stringLiteral t, rest) := by
  have hinside := untilQuote?_escape t rest
  simp [stringLiteral, literalToken?, hinside]

example : literalToken? "\"a\\\"b\" // c"
    = (some ("\"a\\\"b\"", " // c") : Option (Text × Text)) := rfl

/-! ## What a literal was written for -/

/-- The text that was written as the inside of a literal. An escape `\xNN` gives back the control
character that it was written for. -/
def unescape? : Text → Option Text
  | [] => some []
  | '\\' :: 'x' :: high :: low :: rest => do
      let n ← hexNumber? [high, low]
      (unescape? rest).map (Char.ofNat n :: ·)
  | '\\' :: d :: rest => do
      let c ← shortEscapes.find? (·.2 = d)
      (unescape? rest).map (c.1 :: ·)
  | c :: rest => (unescape? rest).map (c :: ·)

/-- One form is read as its one character, whatever follows it. -/
theorem IsWritten.unescape? (h : IsWritten c w) (rest : Text) :
    unescape? (w ++ rest) = (unescape? rest).map (c :: ·) := by
  cases h with
  | short h =>
    simp only [shortEscapes, List.mem_cons, Prod.mk.injEq, List.not_mem_nil, or_false] at h
    rcases h with ⟨rfl, rfl⟩ | ⟨rfl, rfl⟩ | ⟨rfl, rfl⟩ | ⟨rfl, rfl⟩ | ⟨rfl, rfl⟩ <;> rfl
  | hex h =>
    have hnumber := hexNumber?_hexByte h
    simp only [hexByte] at hnumber
    simp [hexByte, Go.unescape?, hnumber, Char.ofNat_toNat]
  | plain hquote hbackslash hcontrol => simp [Go.unescape?, hbackslash]

/-- Escaping loses nothing. The induction is on the characters. -/
theorem unescape?_escape (t : Text) : unescape? (escape t) = some t := by
  induction t with
  | nil => rfl
  | cons c t ih =>
    have hfirst := (isWritten_escapeChar c).unescape? (escape t)
    rw [ih] at hfirst
    simpa [escape] using hfirst

/-- Two strings with one literal are the same. -/
theorem stringLiteral_injective : Function.Injective stringLiteral := by
  intro t u h
  have hinside : escape t = escape u := by
    simpa [stringLiteral] using h
  have hread := congrArg unescape? hinside
  rw [unescape?_escape, unescape?_escape] at hread
  exact Option.some.inj hread

/-! ## No controls -/

/-- No form of a character has a control character in it. -/
theorem IsWritten.isControl_eq_false (h : IsWritten c w) : ∀ d ∈ w, Text.isControl d = false := by
  cases h with
  | @short letter h =>
    have hletter : Text.isControl letter = false := by
      simp only [shortEscapes, List.mem_cons, Prod.mk.injEq, List.not_mem_nil, or_false] at h
      -- The letters of the short forms, one by one.
      rcases h with ⟨-, rfl⟩ | ⟨-, rfl⟩ | ⟨-, rfl⟩ | ⟨-, rfl⟩ | ⟨-, rfl⟩ <;> rfl
    intro d hd
    simp only [List.mem_cons, List.not_mem_nil, or_false] at hd
    rcases hd with rfl | rfl
    · rfl
    · exact hletter
  | hex h =>
    have hhigh := (digitChar_of_lt (n := c.toNat / 16) (by omega)).2.1
    have hlow := (digitChar_of_lt (n := c.toNat % 16) (by omega)).2.1
    intro d hd
    simp only [hexByte, List.mem_cons, List.not_mem_nil, or_false] at hd
    rcases hd with rfl | rfl | rfl | rfl
    · rfl
    · rfl
    · exact hhigh
    · exact hlow
  | plain hquote hbackslash hcontrol => simpa using hcontrol

/-- A literal keeps to its line, whatever the string. -/
theorem isControl_of_mem_stringLiteral (h : c ∈ stringLiteral t) : Text.isControl c = false := by
  simp only [stringLiteral, escape, List.mem_cons, List.mem_append, List.mem_flatMap,
    List.not_mem_nil, or_false] at h
  rcases h with rfl | ⟨d, -, hc⟩ | rfl
  · rfl
  · exact (isWritten_escapeChar d).isControl_eq_false c hc
  · rfl

/-- A comment keeps to its line, since control characters become blanks. -/
theorem isControl_of_mem_lineComment (h : c ∈ lineComment t) : Text.isControl c = false := by
  rcases List.mem_map.1 (Text.mem_of_mem_trim h) with ⟨d, -, rfl⟩
  unfold spaceForControl
  split
  · rfl
  · next hcontrol => simpa using hcontrol

end Go

end ErrorCatalog
