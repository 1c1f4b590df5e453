import ErrorCatalog.Proofs.Go.FreeText
/-!
# What literals denote

In Go an escape `\xNN` is one byte, not a character. For the control characters of ASCII that makes
no difference, since UTF-8 writes them as that one byte. The control characters beyond ASCII, from
U+0080 to U+009F, have two bytes in UTF-8, but only the second of them is in the literal. So the
literal of a text always denotes some bytes, and they are the bytes of the text exactly when no such
character is in it.
-/

namespace ErrorCatalog

namespace Go

variable {c : Char} {t : Text}

def isHighControl (c : Char) : Bool :=
  0x80 ≤ c.toNat && c.toNat < 0xA0

/-- The bytes that are denoted by what is written for a character. -/
def denotedBytes (c : Char) : Bytes :=
  if isHighControl c then [UInt8.ofNat c.toNat] else Text.encodeChar c

/-- The control characters beyond the first 128 are 32 in a row. -/
theorem isHighControl_iff_toNat : isHighControl c = true ↔ 0x80 ≤ c.toNat ∧ c.toNat < 0xA0 := by
  simp [isHighControl]

/-! ## One character -/

/-- An escape of two hexadecimal digits is the byte with that number. -/
theorem literalBytes?_hexByte {n : Nat} (h : n < 256) (rest : Text) :
    literalBytes? ('\\' :: 'x' :: hexByte n ++ rest)
      = (literalBytes? rest).map (UInt8.ofNat n :: ·) := by
  have hnumber := hexNumber?_hexByte h
  simp only [hexByte] at hnumber
  simp only [hexByte, List.cons_append, List.nil_append, literalBytes?, hnumber]
  cases literalBytes? rest with
  | none => rfl
  | some behind => rfl

/-- A character that is not escaped stands for its own bytes. -/
theorem literalBytes?_cons_of_ne (hbackslash : c ≠ '\\') (hquote : c ≠ '"') (hfeed : c ≠ '\n')
    (rest : Text) :
    literalBytes? (c :: rest) = (literalBytes? rest).map (Text.encodeChar c ++ ·) := by
  simp [literalBytes?, hbackslash, hquote, hfeed]

/-- Of a control character one byte is written, and for ASCII that is all of it. -/
theorem denotedBytes_of_isControl (h : Text.isControl c = true) :
    denotedBytes c = [UInt8.ofNat c.toNat] := by
  unfold denotedBytes
  split_ifs with hhigh
  · rfl
  · have hlow : c.toNat < 0x80 := by
      rw [isHighControl_iff_toNat] at hhigh
      simp only [Text.isControl, Bool.or_eq_true, Bool.and_eq_true, decide_eq_true_eq] at h
      omega
    simp [Text.encodeChar, hlow]

/-- Only control characters may stand for other bytes than their own. -/
theorem denotedBytes_of_not_isControl (h : Text.isControl c = false) :
    denotedBytes c = Text.encodeChar c := by
  have hhigh : ¬ isHighControl c = true := by
    rw [isHighControl_iff_toNat]
    simp only [Text.isControl, Bool.or_eq_false_iff, Bool.and_eq_false_iff,
      decide_eq_false_iff_not] at h
    omega
  exact if_neg hhigh

/-- An escaped character stands for the bytes that its form denotes. -/
theorem literalBytes?_escapeChar (c : Char) (rest : Text) :
    literalBytes? (escapeChar c ++ rest) = (literalBytes? rest).map (denotedBytes c ++ ·) := by
  unfold escapeChar
  -- One case for each form, in the order in which the forms are tried.
  split_ifs with hbackslash hquote hfeed hreturn htab hcontrol
  · subst hbackslash
    rfl
  · subst hquote
    rfl
  · subst hfeed
    rfl
  · subst hreturn
    rfl
  · subst htab
    rfl
  · rw [denotedBytes_of_isControl hcontrol, escapeControl_of_isControl hcontrol]
    exact literalBytes?_hexByte (toNat_lt_of_isControl hcontrol) rest
  · rw [denotedBytes_of_not_isControl (Bool.not_eq_true _ ▸ hcontrol)]
    exact literalBytes?_cons_of_ne hbackslash hquote hfeed rest

/-! ## The whole text -/

/-- The bytes of a literal are those of its characters, one after the other. -/
theorem literalBytes?_escape (t : Text) :
    literalBytes? (escape t) = some (t.flatMap denotedBytes) := by
  induction t with
  | nil => rfl
  | cons c t ih =>
    have hfirst := literalBytes?_escapeChar c (escape t)
    rw [ih] at hfirst
    simpa [escape] using hfirst

/-- A control character beyond ASCII has one byte more, in front of the one that is written. -/
theorem encodeChar_of_isHighControl (h : isHighControl c = true) :
    Text.encodeChar c = 0xC2 :: denotedBytes c := by
  have hrange := isHighControl_iff_toNat.1 h
  have hlead : 0xC0 + c.toNat / 0x40 = 0xC2 := by omega
  have hlast : 0x80 + c.toNat % 0x40 = c.toNat := by omega
  have hascii : ¬ c.toNat < 0x80 := by omega
  have htwo : c.toNat < 0x800 := by omega
  simp [Text.encodeChar, hascii, htwo, hlead, Text.continuationByte, hlast, denotedBytes, h]

/-- What is denoted for a control character beyond ASCII is no beginning of its bytes. -/
theorem denotedBytes_append_ne (h : isHighControl c = true) (left right : Bytes) :
    denotedBytes c ++ left ≠ Text.encodeChar c ++ right := by
  have hrange := isHighControl_iff_toNat.1 h
  have hdenoted : denotedBytes c = [UInt8.ofNat c.toNat] := if_pos h
  rw [encodeChar_of_isHighControl h, hdenoted]
  intro heq
  have hhead : UInt8.ofNat c.toNat = 0xC2 := (List.cons.inj heq).1
  have hsmall : c.toNat < UInt8.size := Nat.lt_trans hrange.2 (by decide)
  have hnumber : c.toNat = 0xC2 := by
    rw [← UInt8.toNat_ofNat_of_lt' hsmall, hhead]
    rfl
  omega

/-- The bytes are those of the string unless a high control character is in it. -/
theorem flatMap_denotedBytes_eq_encode_iff :
    t.flatMap denotedBytes = Text.encode t ↔ ∀ c ∈ t, isHighControl c = false := by
  induction t with
  | nil => simp [Text.encode]
  | cons c t ih =>
    have hencode : Text.encode (c :: t) = Text.encodeChar c ++ Text.encode t := rfl
    rw [List.forall_mem_cons, ← ih, List.flatMap_cons, hencode]
    cases hhigh : isHighControl c with
    | true => simp [denotedBytes_append_ne hhigh]
    | false =>
      have hdenoted : denotedBytes c = Text.encodeChar c := if_neg (by simp [hhigh])
      simp [hdenoted]

/-- The literal of a text is one token whatever follows it, and it always denotes some bytes. They
are the bytes of the text if and only if the text has no control character beyond ASCII. -/
theorem stringLiteral_denotes (t : Text) :
    (∀ rest : Text, literalToken? (stringLiteral t ++ rest) = some (stringLiteral t, rest))
    ∧ stringLiteral t = '"' :: (escape t ++ ['"'])
    ∧ literalBytes? (escape t) = some (t.flatMap denotedBytes)
    ∧ (literalBytes? (escape t) = some (Text.encode t) ↔ ∀ c ∈ t, isHighControl c = false) := by
  refine ⟨literalToken?_stringLiteral t, rfl, literalBytes?_escape t, ?_⟩
  rw [literalBytes?_escape, Option.some.injEq]
  exact flatMap_denotedBytes_eq_encode_iff

/-- The literal of the character U+0085 denotes one byte, which is not even well-formed UTF-8. -/
theorem stringLiteral_nextLine :
    stringLiteral ['\u0085'] = "\"\\x85\""
    ∧ literalBytes? (escape ['\u0085']) = some [0x85]
    ∧ Text.decode? [0x85] = none
    ∧ Text.encode ['\u0085'] = [0xC2, 0x85]
    ∧ ¬ ∀ t : Text, literalBytes? (escape t) = some (Text.encode t) := by
  refine ⟨rfl, rfl, rfl, rfl, ?_⟩
  intro h
  have hbytes : (some [0x85] : Option Bytes) = some [0xC2, 0x85] := h ['\u0085']
  exact absurd hbytes (by decide)

end Go

end ErrorCatalog
