import ErrorCatalog.Text.Blank
import Mathlib.Data.List.DropRight
import Mathlib.Data.List.TakeWhile
/-!
# Runs of characters

What a scanner takes from the front of a text is the longest run of characters of one class. It ends
where it should as soon as the text behind the run *stops* the class: it is empty, or its first
character is of another class. A text is *trimmed* when the class is stopped at both ends.

The last occurrence of a token is found by `Text.cutLast?`: the token occurs there, and no later.
-/

namespace ErrorCatalog

namespace Text

variable {p : Char → Bool} {t w rest : Text}

/-! ## Where a run ends -/

/-- The text is empty, or its first character does not satisfy `p`. -/
def Stops (p : Char → Bool) (t : Text) : Prop :=
  ∀ c ∈ t.head?, p c = false

@[simp]
theorem stops_nil : Stops p [] := by
  simp [Stops]

@[simp]
theorem stops_cons {c : Char} : Stops p (c :: t) ↔ p c = false := by
  simp [Stops]

instance (p : Char → Bool) : (t : Text) → Decidable (Stops p t)
  | [] => isTrue stops_nil
  | _ :: _ => decidable_of_iff _ stops_cons.symm

theorem stops_append (hw : Stops p w) (hne : w ≠ []) : Stops p (w ++ rest) := by
  cases w with
  | nil => exact absurd rfl hne
  | cons c w => simpa using hw

/-- A text put together from pieces stops where every piece does. -/
theorem stops_flatMap {α : Type} {f : α → Text} {xs : List α} (h : ∀ x ∈ xs, Stops p (f x)) :
    Stops p (xs.flatMap f) := by
  induction xs with
  | nil => exact stops_nil
  | cons x xs ih =>
    rcases List.forall_mem_cons.1 h with ⟨hx, hxs⟩
    -- The rest shows only where the first part is empty.
    by_cases hne : f x = []
    · simpa [hne] using ih hxs
    · exact stops_append hx hne

theorem stops_of_stops_append (h : Stops p (w ++ rest)) (hne : w ≠ []) : Stops p w := by
  cases w with
  | nil => exact absurd rfl hne
  | cons c w => simpa using h

theorem stops_of_forall (h : ∀ c ∈ t, p c = false) : Stops p t := by
  intro c hc
  exact h c (List.mem_of_mem_head? hc)

theorem stops_dropWhile (p : Char → Bool) (t : Text) : Stops p (t.dropWhile p) := by
  intro c hc
  have h := List.head?_dropWhile_not p t
  rw [Option.mem_def.1 hc] at h
  exact h

/-- Taking ends where the rest begins. -/
theorem takeWhile_append_of_stops (hw : ∀ c ∈ w, p c = true) (hrest : Stops p rest) :
    (w ++ rest).takeWhile p = w := by
  rw [List.takeWhile_append_of_pos hw]
  cases rest with
  | nil => simp
  | cons c rest => simp [stops_cons.1 hrest]

/-- Dropping ends where the rest begins. -/
theorem dropWhile_append_of_stops (hw : ∀ c ∈ w, p c = true) (hrest : Stops p rest) :
    (w ++ rest).dropWhile p = rest := by
  rw [List.dropWhile_append_of_pos hw]
  cases rest with
  | nil => simp
  | cons c rest => simp [stops_cons.1 hrest]

theorem dropWhile_of_stops (h : Stops p t) : t.dropWhile p = t :=
  dropWhile_append_of_stops (w := []) (by simp) h

/-- A run is told apart from the text behind it in one way only. -/
theorem append_inj_of_stops {w' rest' : Text} (hw : ∀ c ∈ w, p c = true)
    (hw' : ∀ c ∈ w', p c = true) (hrest : Stops p rest) (hrest' : Stops p rest')
    (h : w ++ rest = w' ++ rest') : w = w' ∧ rest = rest' := by
  have htaken : (w ++ rest).takeWhile p = (w' ++ rest').takeWhile p := congrArg _ h
  have hdropped : (w ++ rest).dropWhile p = (w' ++ rest').dropWhile p := congrArg _ h
  rw [takeWhile_append_of_stops hw hrest, takeWhile_append_of_stops hw' hrest'] at htaken
  rw [dropWhile_append_of_stops hw hrest, dropWhile_append_of_stops hw' hrest'] at hdropped
  exact ⟨htaken, hdropped⟩

/-! ## Fixed parts -/

@[simp]
theorem after?_append (token rest : Text) : after? token (token ++ rest) = some rest :=
  after?_eq_some_iff.2 rfl

/-- A token cannot be found without its first character. -/
theorem cutLast?_eq_none_of_not_mem {c : Char} {token : Text} (h : c ∉ t) :
    cutLast? (c :: token) t = none := by
  induction t with
  | nil => rfl
  | cons d rest ih =>
    rw [List.mem_cons, not_or] at h
    simp [cutLast?, ih h.2, after?, h.1]

/-- A token whose first character does not come again behind it stands there for the last time. -/
theorem cutLast?_append {c : Char} {token before behind : Text} (h : c ∉ token ++ behind) :
    cutLast? (c :: token) (before ++ (c :: token ++ behind)) = some (before, behind) := by
  induction before with
  | nil =>
    have hnone : cutLast? (c :: token) (token ++ behind) = none := cutLast?_eq_none_of_not_mem h
    have hafter := after?_append (c :: token) behind
    rw [List.cons_append] at hafter
    simp [cutLast?, hnone, hafter]
  | cons d before ih =>
    rw [List.cons_append, cutLast?, ih]

/-- Cutting at a token and putting it back between the two parts gives the text. -/
theorem eq_of_cutLast? {token before behind : Text} (h : cutLast? token t = some (before, behind)) :
    t = before ++ (token ++ behind) := by
  induction t generalizing before with
  | nil =>
    rcases Option.map_eq_some_iff.1 h with ⟨rest, hrest, heq⟩
    cases heq
    simpa using after?_eq_some_iff.1 hrest
  | cons c rest ih =>
    unfold cutLast? at h
    cases hcut : cutLast? token rest with
    | none =>
      -- Nothing later starts the token, so it starts here.
      simp only [hcut] at h
      rcases Option.map_eq_some_iff.1 h with ⟨rest', hrest, heq⟩
      cases heq
      simpa using after?_eq_some_iff.1 hrest
    | some parts =>
      rcases parts with ⟨front, back⟩
      simp only [hcut] at h
      cases h
      rw [ih hcut, List.cons_append]

/-! ## The end of a text -/

theorem trimEnd_append_takeEnd (p : Char → Bool) (t : Text) :
    trimEnd p t ++ takeEnd p t = t :=
  List.rdropWhile_append_rtakeWhile

/-- Trimming the end ends where the text does. -/
theorem trimEnd_append_of_stops (hw : ∀ c ∈ w, p c = true) (ht : Stops p t.reverse) :
    trimEnd p (t ++ w) = t := by
  have hw' : ∀ c ∈ w.reverse, p c = true := by simpa using hw
  simp [trimEnd, dropWhile_append_of_stops hw' ht]

theorem takeEnd_append_of_stops (hw : ∀ c ∈ w, p c = true) (ht : Stops p t.reverse) :
    takeEnd p (t ++ w) = w := by
  have hw' : ∀ c ∈ w.reverse, p c = true := by simpa using hw
  simp [takeEnd, takeWhile_append_of_stops hw' ht]

/-- A text is cut in one way where a kind of characters begins that runs to its end. -/
theorem append_inj_of_stops_reverse {t' w' : Text} (hw : ∀ c ∈ w, p c = true)
    (hw' : ∀ c ∈ w', p c = true) (ht : Stops p t.reverse) (ht' : Stops p t'.reverse)
    (h : t ++ w = t' ++ w') : t = t' ∧ w = w' := by
  have htrimmed : trimEnd p (t ++ w) = trimEnd p (t' ++ w') := congrArg _ h
  have htaken : takeEnd p (t ++ w) = takeEnd p (t' ++ w') := congrArg _ h
  rw [trimEnd_append_of_stops hw ht, trimEnd_append_of_stops hw' ht'] at htrimmed
  rw [takeEnd_append_of_stops hw ht, takeEnd_append_of_stops hw' ht'] at htaken
  exact ⟨htrimmed, htaken⟩

theorem trimEnd_of_stops (ht : Stops p t.reverse) : trimEnd p t = t := by
  simpa using trimEnd_append_of_stops (w := []) (by simp) ht

theorem stops_reverse_trimEnd (p : Char → Bool) (t : Text) : Stops p (trimEnd p t).reverse := by
  simpa [trimEnd] using stops_dropWhile p t.reverse

theorem mem_takeEnd {c : Char} (h : c ∈ takeEnd p t) : p c = true :=
  List.mem_rtakeWhile_imp h

theorem stops_reverse_append (h : Stops p w.reverse) (hne : w ≠ []) :
    Stops p (t ++ w).reverse := by
  rw [List.reverse_append]
  exact stops_append h (by simpa using hne)

/-! ## Trimmed texts -/

/-- Neither the first nor the last character satisfies `p`. -/
structure IsTrimmed (p : Char → Bool) (t : Text) : Prop where
  front : Stops p t
  back : Stops p t.reverse

theorem trim_eq_self (h : IsTrimmed p t) : trim p t = t := by
  rw [trim, dropWhile_of_stops h.front, trimEnd_of_stops h.back]

theorem trim_append_of_all (hw : ∀ c ∈ w, p c = true) : trim p (w ++ t) = trim p t := by
  rw [trim, trim, List.dropWhile_append_of_pos hw]

/-- Cutting off the end leaves the front as it was, if anything is left. -/
theorem stops_trimEnd {q : Char → Bool} (h : Stops q t) : Stops q (trimEnd p t) := by
  by_cases hne : trimEnd p t = []
  · simp [hne]
  · -- Together with what was cut off it is `t` again, which has the same first character.
    have happend : Stops q (trimEnd p t ++ takeEnd p t) := by
      rwa [trimEnd_append_takeEnd]
    exact stops_of_stops_append happend hne

/-- Trimming once is enough. -/
theorem isTrimmed_trim (p : Char → Bool) (t : Text) : IsTrimmed p (trim p t) :=
  ⟨stops_trimEnd (stops_dropWhile p t), stops_reverse_trimEnd p _⟩

theorem mem_of_mem_trimEnd {c : Char} (h : c ∈ trimEnd p t) : c ∈ t := by
  rw [← trimEnd_append_takeEnd p t]
  exact List.mem_append_left _ h

theorem mem_of_mem_trim {c : Char} (h : c ∈ trim p t) : c ∈ t :=
  List.dropWhile_subset p (mem_of_mem_trimEnd h)

theorem trimEnd_eq_nil_iff : trimEnd p t = [] ↔ ∀ c ∈ t, p c = true :=
  List.rdropWhile_eq_nil_iff

/-- Trimming leaves nothing exactly of a text of such characters only. -/
theorem trim_eq_nil_iff : trim p t = [] ↔ ∀ c ∈ t, p c = true := by
  constructor
  · intro h c hc
    rw [trim, trimEnd_eq_nil_iff] at h
    -- A character is in the front run, or else in what the end was cut from.
    rw [← List.takeWhile_append_dropWhile (p := p) (l := t)] at hc
    rcases List.mem_append.1 hc with hc | hc
    · exact List.mem_takeWhile_imp hc
    · exact h c hc
  · intro h
    rw [trim, trimEnd_eq_nil_iff]
    intro c hc
    exact h c (List.dropWhile_subset p hc)

/-! ## ASCII blanks -/

/-- A possibly empty run of ASCII blanks. -/
def IsSpaces (w : Text) : Prop :=
  ∀ c ∈ w, isSpace c = true

theorem isSpaces_nil : IsSpaces [] := by
  simp [IsSpaces]

theorem isSpaces_takeWhile (t : Text) : IsSpaces (t.takeWhile isSpace) :=
  fun _ hc => List.mem_takeWhile_imp hc

theorem isSpaces_takeEnd (t : Text) : IsSpaces (takeEnd isSpace t) :=
  fun _ hc => mem_takeEnd hc

/-- ASCII blanks stop every class that has none of them. -/
theorem IsSpaces.stops_append (hw : IsSpaces w) (hp : ∀ c, isSpace c = true → p c = false)
    (hrest : Stops p rest) : Stops p (w ++ rest) := by
  cases w with
  | nil => exact hrest
  | cons c w => exact stops_cons.2 (hp c (hw c List.mem_cons_self))

/-- What stops all blanks stops the ASCII ones. -/
theorem stops_isSpace_of_stops_isBlank (h : Stops isBlank t) : Stops isSpace t := by
  intro c hc
  cases hspace : isSpace c with
  | false => rfl
  | true => rw [← h c hc, isBlank_of_isSpace hspace]

end Text

end ErrorCatalog
