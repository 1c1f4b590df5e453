import ErrorCatalog.Proofs.Listing.Reader
/-!
# JSON is read back

Whatever the grammar allows is read, so `Json.read?` accepts a text if and only if the grammar does,
and no text denotes two values. The proof goes along the derivation of a text. It needs that the
first character behind the blanks tells a value from a closing bracket, and that the length of a
text bounds how deep its values are nested and how many there are.
-/

namespace ErrorCatalog

namespace Listing

namespace Json

variable {α : Type} {c close : Char} {n : Nat} {t u w rest : Text} {v : Value}

/-! ## How a phrase begins -/

def opensValue (c : Char) : Bool :=
  c = '"' || c = '[' || c = '\x7b' || c = 'n' || c = 't' || c = 'f' || c = '-' || c.isDigit

def Opens (t : Text) : Prop :=
  ∃ c u, t = c :: u ∧ opensValue c = true

/-- The first character decides whether a text opens a value. -/
theorem Opens.append (h : Opens t) (rest : Text) : Opens (t ++ rest) := by
  obtain ⟨c, u, rfl, hc⟩ := h
  exact ⟨c, u ++ rest, rfl, hc⟩

theorem opensValue_of_isGapChar (h : isGapChar c = true) : opensValue c = false := by
  simp only [isGapChar, Bool.or_eq_true, decide_eq_true_eq] at h
  rcases h with ((rfl | rfl) | rfl) | rfl <;> rfl

/-- No value begins with a gap. -/
theorem Opens.stops (h : Opens t) : Text.Stops isGapChar t := by
  obtain ⟨c, u, rfl, hc⟩ := h
  rw [Text.stops_cons]
  cases hgap : isGapChar c with
  | false => rfl
  | true => rw [opensValue_of_isGapChar hgap] at hc; cases hc

/-- A gap is skipped whole, and nothing of what follows it. -/
theorem skipGap_append (hu : IsGap u) (ht : Text.Stops isGapChar t) : skipGap (u ++ t) = t :=
  Text.dropWhile_append_of_stops hu ht

theorem opens_of_isString {s : Text} (h : IsString s t) : Opens t := by
  cases h with
  | mk h => exact ⟨'"', _, rfl, rfl⟩

/-- A written value opens one. -/
theorem opens_of_value (h : IsWritten (.value v) t) : Opens t := by
  cases h with
  | word h =>
    simp only [words, List.mem_cons, Prod.mk.injEq, List.not_mem_nil, or_false] at h
    rcases h with ⟨rfl, -⟩ | ⟨rfl, -⟩ | ⟨rfl, -⟩ <;> exact ⟨_, _, rfl, rfl⟩
  | number h =>
    obtain ⟨c, u, rfl, hc⟩ := h.exists_cons
    refine ⟨c, u, rfl, ?_⟩
    rcases hc with rfl | hc
    · rfl
    · simp [opensValue, hc]
  | string h => exact opens_of_isString h
  | emptyArray hw => exact ⟨'[', _, rfl, rfl⟩
  | array h => exact ⟨'[', _, rfl, rfl⟩
  | emptyObject hw => exact ⟨'\x7b', _, rfl, rfl⟩
  | object h => exact ⟨'\x7b', _, rfl, rfl⟩

/-- Behind its blanks a text begins with its value. -/
theorem opens_skipGap_of_text (h : IsWritten (.text v) t) (rest : Text) :
    Opens (skipGap (t ++ rest)) := by
  cases h with
  | @text _ u t w hu h hw =>
    have hopens := (opens_of_value h).append (w ++ rest)
    rwa [List.append_assoc, List.append_assoc, skipGap_append hu hopens.stops]

/-- Behind its gap, a list of items opens a value. -/
theorem opens_skipGap_of_items {vs : List Value} (h : IsWritten (.items vs) t) (rest : Text) :
    Opens (skipGap (t ++ rest)) := by
  cases h with
  | lastItem h => exact opens_skipGap_of_text h rest
  | item h hs =>
    rw [List.append_assoc]
    exact opens_skipGap_of_text h _

theorem opens_skipGap_of_member {m : Text × Value} (h : IsWritten (.member m) t) (rest : Text) :
    Opens (skipGap (t ++ rest)) := by
  cases h with
  | member hu hn hw h =>
    simp only [List.append_assoc]
    have hopens := (opens_of_isString hn).append
    rw [skipGap_append hu (hopens _).stops]
    exact hopens _

/-- Behind its gap, a list of members opens a string. -/
theorem opens_skipGap_of_members {ms : List (Text × Value)} (h : IsWritten (.members ms) t)
    (rest : Text) : Opens (skipGap (t ++ rest)) := by
  cases h with
  | lastMember h => exact opens_skipGap_of_member h rest
  | moreMembers h hs =>
    rw [List.append_assoc]
    exact opens_skipGap_of_member h _

/-! ## What is written is read -/

def continuesText (c : Char) : Bool :=
  continuesNumber c || isGapChar c

/-- Neither numbers nor gaps go on where a text has ended. -/
theorem stops_continuesText : Text.Stops continuesText t ↔
    Text.Stops continuesNumber t ∧ Text.Stops isGapChar t := by
  cases t with
  | nil => simp
  | cons c t => simp [continuesText]

/-- A gap does not carry on a number. -/
theorem IsGap.stops_append (hw : IsGap w) (hrest : Text.Stops continuesNumber rest) :
    Text.Stops continuesNumber (w ++ rest) := by
  cases w with
  | nil => exact hrest
  | cons c w =>
    have hc := hw c List.mem_cons_self
    simp only [isGapChar, Bool.or_eq_true, decide_eq_true_eq] at hc
    refine Text.stops_cons.2 ?_
    rcases hc with ((rfl | rfl) | rfl) | rfl <;> rfl

/-- A reader takes what a text was written for, in front of whatever does not carry it on. -/
def Takes (item? : Reader α) (a : α) (t : Text) : Prop :=
  ∀ rest, Text.Stops continuesText rest → item? (t ++ rest) = some (a, rest)

/-- A list is taken in front of its closing bracket. Each item takes one from the bound, and its
comma at least one from the text. -/
def TakesList (item? : Reader α) (close : Char) (as : List α) (t : Text) : Prop :=
  ∀ n rest, t.length < n → separated? item? close n (t ++ close :: rest) = some (as, rest)

/-- The last element of a list is followed by the closing mark. -/
theorem Takes.last {item? : Reader α} {a : α} (h : Takes item? a t)
    (hclose : continuesText close = false) : TakesList item? close [a] t := by
  intro n rest hn
  cases n with
  | zero => cases hn
  | succ n =>
    have hitem := h (close :: rest) (Text.stops_cons.2 hclose)
    simp [separated?, hitem]

/-- An element that a comma follows is taken in front of the others. -/
theorem Takes.cons {item? : Reader α} {a : α} {as : List α} (h : Takes item? a t)
    (hclose : close ≠ ',') (hs : TakesList item? close as u) :
    TakesList item? close (a :: as) (t ++ ',' :: u) := by
  intro n rest hn
  cases n with
  | zero => cases hn
  | succ n =>
    have hitem := h (',' :: (u ++ close :: rest)) (Text.stops_cons.2 rfl)
    have hlength : u.length < n := by
      simp only [List.length_append, List.length_cons] at hn
      omega
    have hrest := hs n rest hlength
    rw [List.append_assoc]
    simp [separated?, hitem, hrest, hclose.symm]

/-- An empty list may have a gap in it. -/
theorem enclosed?_isGap {item? : Reader α} (hw : IsGap w) (hclose : isGapChar close = false)
    (rest : Text) : enclosed? item? close n (w ++ close :: rest) = some ([], rest) := by
  have hskip : skipGap (w ++ close :: rest) = close :: rest :=
    skipGap_append hw (Text.stops_cons.2 hclose)
  simp [enclosed?, hskip]

/-- A list that is taken up to its mark is taken between its marks. -/
theorem TakesList.enclosed {item? : Reader α} {as : List α} (h : TakesList item? close as t)
    (hopens : ∀ rest, Opens (skipGap (t ++ rest))) (hclose : opensValue close = false)
    (hn : t.length < n) (rest : Text) :
    enclosed? item? close n (t ++ close :: rest) = some (as, rest) := by
  obtain ⟨c, u, hskip, hc⟩ := hopens (close :: rest)
  have hne : c ≠ close := by
    rintro rfl
    rw [hclose] at hc
    cases hc
  simp [enclosed?, hskip, hne, h n rest hn]

/-- How a phrase is read. Each bracket takes one from the bound, and at least one from the text. -/
def IsTaken : Phrase → Text → Prop
  | .value v, t => ∀ n rest, t.length ≤ n → Text.Stops continuesNumber rest →
      value? n (t ++ rest) = some (v, rest)
  | .text v, t => ∀ n, t.length ≤ n → Takes (text? (value? n)) v t
  | .items vs, t => ∀ n, t.length ≤ n → TakesList (text? (value? n)) ']' vs t
  | .member m, t => ∀ n, t.length ≤ n → Takes (member? (value? n)) m t
  | .members ms, t => ∀ n, t.length ≤ n → TakesList (member? (value? n)) '\x7d' ms t

/-- The fixed words are read as their values. -/
theorem isTaken_word (h : (t, v) ∈ words) : IsTaken (.value v) t := by
  intro n rest hn hrest
  simp only [words, List.mem_cons, Prod.mk.injEq, List.not_mem_nil, or_false] at h
  cases n with
  | zero => rcases h with ⟨rfl, rfl⟩ | ⟨rfl, rfl⟩ | ⟨rfl, rfl⟩ <;> cases hn
  | succ n => rcases h with ⟨rfl, rfl⟩ | ⟨rfl, rfl⟩ | ⟨rfl, rfl⟩ <;> rfl

theorem isTaken_number {m k : Int} (h : IsNumber m k t) : IsTaken (.value (.number m k)) t := by
  intro n rest hn hrest
  have hnumber := number?_append h hrest
  obtain ⟨c, u, rfl, hc⟩ := h.exists_cons
  cases n with
  | zero => cases hn
  | succ n =>
    -- No other value begins with a minus sign or a digit.
    have hother : ∀ d, d ≠ '-' → d.isDigit = false → c ≠ d := by
      rintro d hminus hdigit rfl
      rcases hc with rfl | hc
      · exact hminus rfl
      · rw [hdigit] at hc
        cases hc
    have hword : word? (c :: (u ++ rest)) = none := by
      simp [word?, words, Text.after?, (hother 'n' (by decide) rfl).symm,
        (hother 't' (by decide) rfl).symm, (hother 'f' (by decide) rfl).symm]
    simp only [List.cons_append] at hnumber ⊢
    simp [value?, hother '"' (by decide) rfl, hother '[' (by decide) rfl,
      hother '\x7b' (by decide) rfl, hword, hnumber]

theorem isTaken_string {s : Text} (h : IsString s t) : IsTaken (.value (.string s)) t := by
  intro n rest hn hrest
  have hstring := string?_append h rest
  cases h with
  | @mk u h =>
    cases n with
    | zero => cases hn
    | succ n => simpa [value?] using congrArg (Option.map (Prod.map Value.string id)) hstring

/-- An array is read if its items are. -/
theorem isTaken_array {vs : List Value} (h : ∀ n rest, t.length < n →
    enclosed? (text? (value? n)) ']' n (t ++ ']' :: rest) = some (vs, rest)) :
    IsTaken (.value (.array vs)) ('[' :: (t ++ [']'])) := by
  intro n rest hn hrest
  cases n with
  | zero => cases hn
  | succ n =>
    have hlength : t.length < n := by
      simp only [List.length_cons, List.length_append, List.length_nil] at hn
      omega
    simp [value?, h n rest hlength]

/-- An object is read if its members are. -/
theorem isTaken_object {ms : List (Text × Value)} (h : ∀ n rest, t.length < n →
    enclosed? (member? (value? n)) '\x7d' n (t ++ '\x7d' :: rest) = some (ms, rest)) :
    IsTaken (.value (.object ms)) ('\x7b' :: (t ++ ['\x7d'])) := by
  intro n rest hn hrest
  cases n with
  | zero => cases hn
  | succ n =>
    have hlength : t.length < n := by
      simp only [List.length_cons, List.length_append, List.length_nil] at hn
      omega
    simp [value?, h n rest hlength]

/-- A value is read with the gaps around it. -/
theorem isTaken_text (hu : IsGap u) (h : IsTaken (.value v) t) (hopens : Opens t) (hw : IsGap w) :
    IsTaken (.text v) (u ++ t ++ w) := by
  intro n hn rest hrest
  obtain ⟨hnumber, hgap⟩ := stops_continuesText.1 hrest
  have hlength : t.length ≤ n := by
    simp only [List.length_append] at hn
    omega
  -- Blanks end a number, so the value is read in front of them whatever comes behind.
  have hvalue := h n (w ++ rest) hlength (hw.stops_append hnumber)
  simp only [List.append_assoc]
  simp [text?, skipGap_append hu (hopens.append _).stops, hvalue, skipGap_append hw hgap]

/-- A member is read as its name and its value. -/
theorem isTaken_member {name x : Text} (hu : IsGap u) (hx : IsString name x) (hw : IsGap w)
    (h : IsTaken (.text v) t) : IsTaken (.member (name, v)) (u ++ x ++ w ++ ':' :: t) := by
  intro n hn rest hrest
  have hlength : t.length ≤ n := by
    simp only [List.length_append, List.length_cons] at hn
    omega
  have hvalue := h n hlength rest hrest
  have hskip := skipGap_append hu ((opens_of_isString hx).append (w ++ ':' :: (t ++ rest))).stops
  have hcolon : skipGap (w ++ ':' :: (t ++ rest)) = ':' :: (t ++ rest) :=
    skipGap_append hw (Text.stops_cons.2 rfl)
  simp only [List.append_assoc, List.cons_append]
  simp [member?, hskip, string?_append hx, hcolon, Text.after?, hvalue]

/-- What is written is read. -/
theorem IsWritten.isTaken {p : Phrase} (h : IsWritten p t) : IsTaken p t := by
  -- Along the derivation: values one level down have a smaller bound, but also a shorter text.
  induction h with
  | word h => exact isTaken_word h
  | number h => exact isTaken_number h
  | string h => exact isTaken_string h
  | emptyArray hw => exact isTaken_array fun n rest hn => enclosed?_isGap hw rfl rest
  | array h ih =>
    refine isTaken_array fun n rest hn => ?_
    exact (ih n (by omega)).enclosed (opens_skipGap_of_items h) rfl hn rest
  | emptyObject hw => exact isTaken_object fun n rest hn => enclosed?_isGap hw rfl rest
  | object h ih =>
    refine isTaken_object fun n rest hn => ?_
    exact (ih n (by omega)).enclosed (opens_skipGap_of_members h) rfl hn rest
  | text hu h hw ih => exact isTaken_text hu ih (opens_of_value h) hw
  | lastItem h ih => exact fun n hn => (ih n hn).last rfl
  | item h hs ih ihs =>
    intro n hn
    simp only [List.length_append, List.length_cons] at hn
    exact (ih n (by omega)).cons (by decide) (ihs n (by omega))
  | member hu hx hw h ih => exact isTaken_member hu hx hw ih
  | lastMember h ih => exact fun n hn => (ih n hn).last rfl
  | moreMembers h hs ih ihs =>
    intro n hn
    simp only [List.length_append, List.length_cons] at hn
    exact (ih n (by omega)).cons (by decide) (ihs n (by omega))

/-! ## Whole texts -/

/-- A text is read as a value if and only if it is written for that value. -/
theorem read?_eq_some_iff : read? t = some v ↔ IsWritten (.text v) t := by
  constructor
  · intro h
    unfold read? at h
    split at h
    · next v hread =>
      cases h
      obtain ⟨w, hw, ht⟩ := text?_sound (value?_sound _) hread
      rw [ht, List.append_nil]
      exact hw
    · cases h
  · intro h
    -- The length of the text is fuel enough.
    have hread := h.isTaken t.length (Nat.le_refl _) [] Text.stops_nil
    rw [List.append_nil] at hread
    simp [read?, hread]

example : read? " [ -12.50E+1 , \x7b\"a\\u0041\\ud83d\\ude00/\\/\":[ ]\x7d, true ] "
    = some (.array [.number (-1250) (-1), .object [("aA😀//", .array [])], .bool true]) := rfl

/-- No text denotes two values. -/
theorem IsWritten.text_unique {v v' : Value} (h : IsWritten (.text v) t)
    (h' : IsWritten (.text v') t) : v = v' := by
  rw [← read?_eq_some_iff] at h h'
  rw [h, Option.some.injEq] at h'
  exact h'

end Json

end Listing

end ErrorCatalog
