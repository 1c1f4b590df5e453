import ErrorCatalog.Proofs.Go.FreeText
import ErrorCatalog.Proofs.Listing.ReadBack
import Mathlib.Data.List.Forall2
/-!
# The JSON listing loses nothing

The listing of any entries is JSON, and what it denotes is an array with an object for each entry,
in order, that holds all five fields of the entry. Whatever the texts of the entries are, quotes and
brackets among them, they stay inside their strings; so the entries can be told from the listing.
-/

namespace ErrorCatalog

namespace Listing

namespace Json

variable {α : Type} {t g : Text}

/-- The fields of an entry with what they hold, in the order in which they are listed. -/
def entryMembers (e : Entry) : List (Text × Value) :=
  [("code", .number e.code 0), ("name", .string e.name), ("comment", .string e.comment),
    ("http_status", .number e.httpStatus 0), ("http_message", .string e.httpMessage)]

def entryValue (e : Entry) : Value :=
  .object (entryMembers e)

/-- Different entries have different objects. -/
theorem entryValue_injective : Function.Injective entryValue := by
  intro e f h
  cases e
  cases f
  simpa [entryValue, entryMembers] using h

/-! ## Strings -/

theorem ofCodePoint?_toNat (c : Char) : Text.ofCodePoint? c.toNat = some c :=
  dif_pos c.valid

/-- The escape that is written for a control character has its code point. -/
theorem isCodeUnit_hexByte {n : Nat} (h : n < 256) :
    IsCodeUnit n ('\\' :: 'u' :: '0' :: '0' :: Go.hexByte n) := by
  have hzeros : Go.hexNumber? ('0' :: '0' :: Go.hexByte n) = Go.hexNumber? (Go.hexByte n) := rfl
  exact .mk (hzeros.trans (Go.hexNumber?_hexByte h))

/-- Every character is written in one of the ways the grammar allows. -/
theorem isCharacter_escapeChar (c : Char) : IsCharacter c (escapeChar c) := by
  unfold escapeChar
  split_ifs with hquote hbackslash hback htab hfeed hform hreturn hlow
  · exact .sign (by rw [hquote]; rfl)
  · exact .sign (by rw [hbackslash]; rfl)
  · exact .sign (by rw [hback]; rfl)
  · exact .sign (by rw [htab]; rfl)
  · exact .sign (by rw [hfeed]; rfl)
  · exact .sign (by rw [hform]; rfl)
  · exact .sign (by rw [hreturn]; rfl)
  · exact .unit (isCodeUnit_hexByte (by omega)) (ofCodePoint?_toNat c)
  · exact .plain (by simp [isPlain, hquote, hbackslash, Nat.not_lt.1 hlow])

/-- The inside of a string is written character by character. -/
theorem isInside_flatMap (t : Text) : IsInside t (t.flatMap escapeChar) := by
  induction t with
  | nil => exact .nil
  | cons c t ih => exact .cons (isCharacter_escapeChar c) ih

theorem isString_string (t : Text) : IsString t (string t) :=
  .mk (isInside_flatMap t)

/-! ## Numbers -/

/-- No numeral but that of zero begins with a zero. -/
theorem head?_ofNat_ne_zero {n : Nat} (hn : n ≠ 0) : (Text.ofNat n).head? ≠ some '0' := by
  induction n using Nat.strongRecOn with
  | ind n ih =>
    unfold Text.ofNat at ih ⊢
    by_cases hsmall : n < 10
    · rw [Nat.toDigits_of_lt_base hsmall]
      simpa using hn
    · -- The digits in front of the last one are those of the tenth part.
      have htenth := ih (n / 10) (by omega) (by omega)
      rw [Nat.toDigits_of_base_le (by decide) (by omega),
        List.head?_append_of_ne_nil _ Nat.toDigits_ne_nil]
      exact htenth

/-- Digits are written without a zero in front. -/
theorem isWhole_ofNat (n : Nat) : IsWhole (Text.ofNat n) where
  toIsNumeral := Text.isNumeral_ofNat n
  eq_zero hhead := by
    by_cases hn : n = 0
    · rw [hn]
      rfl
    · exact absurd hhead (head?_ofNat_ne_zero hn)

/-- A code is a number without a fraction. -/
theorem isNumber_ofInt (i : Int) : IsNumber i 0 (Text.ofInt i) := by
  cases i with
  | ofNat n =>
    have h := IsNumber.mk .none (by simp) (isWhole_ofNat n) .absent .absent
    simpa [Text.numeralValue_ofNat, Text.ofInt_natCast] using h
  | negSucc n =>
    have h := IsNumber.mk .minus (by simp) (isWhole_ofNat (n + 1)) .absent .absent
    simpa [Text.numeralValue_ofNat, Text.ofInt, Int.negSucc_eq] using h

/-! ## Lists -/

/-- Parts that may have blanks behind them make a list that may have blanks behind it. -/
theorem IsListOf.joinWith {R : α → Text → Prop} {L : List α → Text → Prop} (hL : IsListOf R L)
    {as : List α} {parts : List Text}
    (h : List.Forall₂ (fun a part => ∀ g, IsGap g → R a (part ++ g)) as parts) (hne : as ≠ [])
    (hg : IsGap g) : L as (Text.joinWith "," parts ++ g) := by
  induction h with
  | nil => exact absurd rfl hne
  | @cons a part as parts hpart hparts ih =>
    cases hparts with
    | nil => exact hL.last (hpart g hg)
    | cons hsecond hothers =>
      -- In front of a comma the listing has no blanks.
      have hfirst := hpart [] isGap_nil
      have hlist := hL.cons hfirst (ih (by simp))
      simpa [Text.joinWith] using hlist

/-- A field is a member, with its gap behind it. -/
theorem isWritten_field {v : Value} (name : Text) (h : IsWritten (.value v) t) (hg : IsGap g) :
    IsWritten (.member (name, v)) (field name t ++ g) := by
  have hindent : IsGap "\n    " := by simp [IsGap, isGapChar]
  have hspace : IsGap " " := by simp [IsGap, isGapChar]
  have hmember := IsWritten.member hindent (isString_string name) isGap_nil (.text hspace h hg)
  unfold field
  simpa using hmember

/-- Field by field, what is written is what the field holds. -/
theorem forall₂_fields (e : Entry) :
    List.Forall₂ (fun m f => m.1 = f.1 ∧ IsWritten (.value m.2) f.2) (entryMembers e)
      (fields e) := by
  refine .cons ⟨rfl, .number (isNumber_ofInt e.code)⟩ ?_
  refine .cons ⟨rfl, .string (isString_string e.name)⟩ ?_
  refine .cons ⟨rfl, .string (isString_string e.comment)⟩ ?_
  refine .cons ⟨rfl, .number (isNumber_ofInt e.httpStatus)⟩ ?_
  exact .cons ⟨rfl, .string (isString_string e.httpMessage)⟩ .nil

/-- An entry is written as an object of its five fields. -/
theorem isWritten_object (e : Entry) (hg : IsGap g) :
    IsWritten (.text (entryValue e)) (object e ++ g) := by
  have hindent : IsGap "\n  " := by simp [IsGap, isGapChar]
  -- Each field is a member on its own, with the gap that comes behind it.
  have hparts : List.Forall₂ (fun m part => ∀ g, IsGap g → IsWritten (.member m) (part ++ g))
      (entryMembers e) ((fields e).map fun f => field f.1 f.2) := by
    rw [List.forall₂_map_right_iff]
    refine (forall₂_fields e).imp ?_
    rintro ⟨name, v⟩ ⟨_, value⟩ ⟨rfl, hvalue⟩ g hg
    exact isWritten_field name hvalue hg
  have hmembers := isListOf_members.joinWith hparts (List.cons_ne_nil _ _) hindent
  have hvalue := IsWritten.text hindent (.object hmembers) hg
  have hobject : object e = "\n  \x7b"
      ++ Text.joinWith "," ((fields e).map fun f => field f.1 f.2) ++ "\n  \x7d" := rfl
  rw [hobject]
  simpa [entryValue] using hvalue

end Json

/-! ## The listing -/

/-- The listing is a text of the grammar, for the array of its entries. -/
theorem isWritten_json (entries : List Entry) :
    Json.IsWritten (.text (.array (entries.map Json.entryValue))) (json entries) := by
  have hempty := Json.isGap_nil
  have hfeed : Json.IsGap "\n" := by simp [Json.IsGap, Json.isGapChar]
  -- The empty listing is written without a line of its own.
  cases entries with
  | nil => exact .text hempty (.emptyArray hempty) hempty
  | cons e others =>
    have hobjects : List.Forall₂
        (fun v part => ∀ g, Json.IsGap g → Json.IsWritten (.text v) (part ++ g))
        ((e :: others).map Json.entryValue) ((e :: others).map Json.object) := by
      rw [List.forall₂_map_left_iff, List.forall₂_map_right_iff, List.forall₂_same]
      exact fun e _ g hg => Json.isWritten_object e hg
    have hitems := Json.isListOf_items.joinWith hobjects (List.cons_ne_nil _ _) hfeed
    have harray := Json.IsWritten.text hempty (.array hitems) hempty
    simpa [json] using harray

/-- Reading a listing takes all of it and gives the entries back, each with its five fields; the
grammar allows no other reading; and different entries have different listings. -/
theorem json_lossless (entries : List Entry) :
    Json.read? (json entries) = some (.array (entries.map Json.entryValue))
    ∧ (∀ v, Json.IsWritten (.text v) (json entries) ↔ v = .array (entries.map Json.entryValue))
    ∧ ∀ others, json entries = json others ↔ entries = others := by
  have hwritten := isWritten_json entries
  refine ⟨Json.read?_eq_some_iff.2 hwritten, fun v => ⟨fun h => ?_, fun h => ?_⟩, fun others =>
    ⟨fun h => ?_, congrArg json⟩⟩
  · exact h.text_unique hwritten
  · rw [h]
    exact hwritten
  · have hothers := isWritten_json others
    rw [← h] at hothers
    have harrays := Json.Value.array.inj (hwritten.text_unique hothers)
    exact List.map_injective_iff.2 Json.entryValue_injective harrays

end Listing

end ErrorCatalog
