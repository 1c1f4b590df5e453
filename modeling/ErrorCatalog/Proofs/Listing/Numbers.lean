import ErrorCatalog.Proofs.Listing.Strings
/-!
# Reading JSON numbers

A number does not say itself where it ends: a digit, a point or the marker of an exponent might
carry it on. In front of any other character, and at the end of the text, the reader takes all of
it.
-/

namespace ErrorCatalog

namespace Listing

namespace Json

variable {t u w rest : Text}

/-! ## Readers -/

/-- The characters with which a number might go on. -/
def continuesNumber (c : Char) : Bool :=
  c.isDigit || c = '.' || c = 'e' || c = 'E'

def digits? (t : Text) : Option (Text × Text) :=
  let digits := t.takeWhile Char.isDigit
  if digits.isEmpty then none else some (digits, t.dropWhile Char.isDigit)

/-- The digits in front of the point: a zero alone, or all that there are. -/
def whole? : Reader Text
  | '0' :: rest => some (['0'], rest)
  | t => digits? t

def fraction? : Reader Text
  | '.' :: rest => digits? rest
  | t => some ([], t)

def takeSign : Text → Int × Text
  | '+' :: rest => (1, rest)
  | '-' :: rest => (-1, rest)
  | t => (1, t)

def exponent? : Reader Int
  | [] => some (0, [])
  | c :: rest =>
      if c = 'e' ∨ c = 'E' then
        let (s, behind) := takeSign rest
        (digits? behind).map (Prod.map (fun w => s * Text.numeralValue w) id)
      else some (0, c :: rest)

def number? (t : Text) : Option ((Int × Int) × Text) :=
  -- The sign in front of an exponent is read in the same way, but there a plus sign may stand.
  if t.head? = some '+' then none
  else do
    let (s, behind) := takeSign t
    let (b, behind) ← whole? behind
    let (f, behind) ← fraction? behind
    let (k, behind) ← exponent? behind
    some ((s * Text.numeralValue (b ++ f), k - f.length), behind)

/-! ## Digits -/

/-- What is read as digits are digits, and the rest follows. -/
theorem digits?_sound (h : digits? t = some (w, rest)) : Text.IsNumeral w ∧ t = w ++ rest := by
  simp only [digits?, Option.ite_none_left_eq_some, Option.some.injEq, Prod.mk.injEq] at h
  obtain ⟨hne, rfl, rfl⟩ := h
  refine ⟨⟨by simpa using hne, fun c hc => List.mem_takeWhile_imp hc⟩, ?_⟩
  exact List.takeWhile_append_dropWhile.symm

/-- Digits are read to the last one. -/
theorem digits?_append (h : Text.IsNumeral w) (hrest : Text.Stops Char.isDigit rest) :
    digits? (w ++ rest) = some (w, rest) := by
  simp [digits?, Text.takeWhile_append_of_stops h.isDigit hrest,
    Text.dropWhile_append_of_stops h.isDigit hrest, h.ne_nil]

/-! ## The parts of a number -/

theorem isWhole_zero : IsWhole ['0'] where
  ne_nil := List.cons_ne_nil _ _
  isDigit := by simp
  eq_zero _ := rfl

theorem whole?_sound (h : whole? t = some (w, rest)) : IsWhole w ∧ t = w ++ rest := by
  unfold whole? at h
  split at h
  · cases h
    exact ⟨isWhole_zero, rfl⟩
  · next hzero =>
    obtain ⟨hdigits, rfl⟩ := digits?_sound h
    refine ⟨⟨hdigits, fun hhead => ?_⟩, rfl⟩
    -- A leading zero would have been taken alone.
    obtain ⟨w', rfl⟩ := List.head?_eq_some_iff.1 hhead
    exact absurd rfl (hzero (w' ++ rest))

/-- A whole number is read to its last digit; a leading zero would end it. -/
theorem whole?_append (h : IsWhole w) (hrest : Text.Stops Char.isDigit rest) :
    whole? (w ++ rest) = some (w, rest) := by
  by_cases hhead : w.head? = some '0'
  · rw [h.eq_zero hhead]
    rfl
  · have hdigits := digits?_append h.toIsNumeral hrest
    unfold whole?
    split
    · next rest' heq =>
      cases w with
      | nil => exact absurd rfl h.ne_nil
      | cons c w =>
        obtain ⟨rfl, -⟩ := List.cons.inj heq
        exact absurd rfl hhead
    · exact hdigits

/-- A fraction that is read stands in front of the rest. -/
theorem fraction?_sound : Sound IsFraction fraction? := by
  intro f t rest h
  unfold fraction? at h
  split at h
  · obtain ⟨hdigits, rfl⟩ := digits?_sound h
    exact ⟨'.' :: f, .digits hdigits, rfl⟩
  · cases h
    exact ⟨[], .absent, rfl⟩

/-- A fraction that is written is read, if no digit follows it. -/
theorem fraction?_append {f c : Text} (h : IsFraction f c) (hdigit : Text.Stops Char.isDigit rest)
    (hpoint : Text.Stops (· = '.') rest) : fraction? (c ++ rest) = some (f, rest) := by
  cases h with
  | absent =>
    cases rest with
    | nil => rfl
    | cons c rest =>
      have hc : c ≠ '.' := by simpa using hpoint
      simp [fraction?, hc]
  | digits h => exact digits?_append h hdigit

theorem takeSign_sound (t : Text) : ∃ u, IsSign (takeSign t).1 u ∧ t = u ++ (takeSign t).2 := by
  unfold takeSign
  split
  · exact ⟨['+'], .plus, rfl⟩
  · exact ⟨['-'], .minus, rfl⟩
  · exact ⟨[], .none, rfl⟩

/-- A sign is found in front of a digit. -/
theorem takeSign_append {m : Int} (h : IsSign m u) (hw : Text.IsNumeral w) (rest : Text) :
    takeSign (u ++ (w ++ rest)) = (m, w ++ rest) := by
  cases h with
  | plus => rfl
  | minus => rfl
  | none =>
    cases w with
    | nil => exact absurd rfl hw.ne_nil
    | cons c w =>
      -- Without a sign the first character is a digit, which is none of the signs.
      have hc := hw.isDigit c List.mem_cons_self
      unfold takeSign
      split
      · next heq =>
        obtain ⟨rfl, -⟩ := List.cons.inj heq
        exact absurd hc (by decide)
      · next heq =>
        obtain ⟨rfl, -⟩ := List.cons.inj heq
        exact absurd hc (by decide)
      · rfl

theorem exponent?_sound : Sound IsExponent exponent? := by
  intro k t rest h
  cases t with
  | nil =>
    cases h
    exact ⟨[], .absent, rfl⟩
  | cons c t =>
    simp only [exponent?] at h
    split_ifs at h with hmarker
    · obtain ⟨w, hdigits, rfl⟩ := map_fst_eq_some_iff.1 h
      obtain ⟨u, hu, ht⟩ := takeSign_sound t
      obtain ⟨hw, hbehind⟩ := digits?_sound hdigits
      refine ⟨c :: (u ++ w), .digits hmarker hu hw, ?_⟩
      rw [ht, hbehind, List.cons_append, List.append_assoc]
    · cases h
      exact ⟨[], .absent, rfl⟩

/-- An exponent that is written is read with its sign. -/
theorem exponent?_append {k : Int} (h : IsExponent k w)
    (hrest : Text.Stops continuesNumber rest) : exponent? (w ++ rest) = some (k, rest) := by
  cases h with
  | absent =>
    cases rest with
    | nil => rfl
    | cons c rest =>
      -- Where there is no exponent, the rest must not begin like one.
      have hstop := Text.stops_cons.1 hrest
      have hc : ¬ (c = 'e' ∨ c = 'E') := by
        rintro (rfl | rfl)
        · exact absurd hstop (by decide)
        · exact absurd hstop (by decide)
      simp [exponent?, hc]
  | digits hmarker hs hw =>
    have hdigit : Text.Stops Char.isDigit rest := by
      intro c hc
      have hstop := hrest c hc
      simp only [continuesNumber, Bool.or_eq_false_iff] at hstop
      exact hstop.1.1.1
    simp [exponent?, hmarker, List.append_assoc, takeSign_append hs hw, digits?_append hw hdigit]

/-! ## The whole number -/

/-- A run that stops in front of whatever follows the number stops in front of the exponent, if it
does not take the marker. -/
theorem IsExponent.stops_append {p : Char → Bool} {k : Int} (h : IsExponent k w)
    (hp : ∀ c, p c = true → continuesNumber c = true) (hlower : p 'e' = false)
    (hupper : p 'E' = false) (hrest : Text.Stops continuesNumber rest) :
    Text.Stops p (w ++ rest) := by
  cases h with
  | absent =>
    intro c hc
    cases hpc : p c with
    | false => rfl
    | true => rw [← hrest c hc, hp c hpc]
  | digits hmarker hs hw =>
    rcases hmarker with rfl | rfl
    · exact Text.stops_cons.2 hlower
    · exact Text.stops_cons.2 hupper

/-- In front of a fraction no digit goes on. -/
theorem IsFraction.stops_append {f c : Text} (h : IsFraction f c)
    (hrest : Text.Stops Char.isDigit rest) : Text.Stops Char.isDigit (c ++ rest) := by
  cases h with
  | absent => exact hrest
  | digits h => exact Text.stops_cons.2 (by decide)

/-- A number begins with a minus sign or a digit. -/
theorem IsNumber.exists_cons {m k : Int} (h : IsNumber m k w) :
    ∃ c u, w = c :: u ∧ (c = '-' ∨ c.isDigit = true) := by
  cases h with
  | @mk s k a b f c d hs hplus hb hf hk =>
    cases hs with
    | plus => exact absurd rfl hplus
    | minus => exact ⟨'-', _, rfl, .inl rfl⟩
    | none =>
      cases b with
      | nil => exact absurd rfl hb.ne_nil
      | cons first b => exact ⟨first, _, rfl, .inr (hb.isDigit first List.mem_cons_self)⟩

/-- What the reader takes for a number is one. -/
theorem number?_sound : Sound (fun m w => IsNumber m.1 m.2 w) number? := by
  intro m t rest h
  simp only [number?, Option.ite_none_left_eq_some, Option.bind_eq_bind, Option.bind_eq_some_iff,
    Prod.exists, Option.some.injEq, Prod.mk.injEq] at h
  obtain ⟨hplus, b, t₁, hb, f, t₂, hf, k, t₃, hk, rfl, rfl⟩ := h
  obtain ⟨a, ha, ht⟩ := takeSign_sound t
  obtain ⟨hwhole, ht₁⟩ := whole?_sound hb
  obtain ⟨c, hc, ht₂⟩ := fraction?_sound hf
  obtain ⟨d, hd, ht₃⟩ := exponent?_sound hk
  have hsign : a ≠ ['+'] := by
    rintro rfl
    rw [ht] at hplus
    exact hplus rfl
  refine ⟨a ++ b ++ c ++ d, .mk ha hsign hwhole hc hd, ?_⟩
  calc t = a ++ (takeSign t).2 := ht
    _ = a ++ (b ++ (c ++ (d ++ t₃))) := by rw [ht₁, ht₂, ht₃]
    _ = a ++ b ++ c ++ d ++ t₃ := by simp only [List.append_assoc]

/-- A number of the grammar is read whole. -/
theorem number?_append {m k : Int} (h : IsNumber m k w)
    (hrest : Text.Stops continuesNumber rest) : number? (w ++ rest) = some ((m, k), rest) := by
  obtain ⟨first, others, hfirst, hkind⟩ := h.exists_cons
  have hplus : (w ++ rest).head? ≠ some '+' := by
    rw [hfirst]
    intro heq
    obtain rfl : first = '+' := by simpa using heq
    exact absurd hkind (by decide)
  cases h with
  | @mk s k a b f c d hs ha hb hf hk =>
    -- Each part ends where the next one begins, since that goes on in another way.
    have hdigit : Text.Stops Char.isDigit (d ++ rest) :=
      hk.stops_append (fun c hc => by simp [continuesNumber, hc]) rfl rfl hrest
    have hpoint : Text.Stops (· = '.') (d ++ rest) :=
      hk.stops_append (fun c hc => by simp_all [continuesNumber]) rfl rfl hrest
    have hsign := takeSign_append hs hb.toIsNumeral (c ++ (d ++ rest))
    have hwhole := whole?_append hb (hf.stops_append hdigit)
    have hfraction := fraction?_append hf hdigit hpoint
    have hexponent := exponent?_append hk hrest
    rw [number?, if_neg hplus]
    simp [List.append_assoc, hsign, hwhole, hfraction, hexponent]

end Json

end Listing

end ErrorCatalog
