import ErrorCatalog.Proofs.Listing.Grammar
import ErrorCatalog.Proofs.Text.Scan
/-!
# Reading JSON strings

A reader takes something off the front of a text and gives it with what is left. It is *sound* for a
notation when all it takes is written in that notation. Conversely the lemmas on appended texts say
that it takes whatever is written in the notation, in front of any text that cannot be mistaken for
more of the same. A string ends with its quote, so any text may follow it.
-/

namespace ErrorCatalog

namespace Listing

namespace Json

variable {α β : Type} {c : Char} {n : Nat} {s t u w rest : Text}

/-! ## Readers -/

abbrev Reader (α : Type) : Type :=
  Text → Option (α × Text)

def Sound (R : α → Text → Prop) (read? : Reader α) : Prop :=
  ∀ ⦃a t rest⦄, read? t = some (a, rest) → ∃ w, R a w ∧ t = w ++ rest

/-- Two sound readers, tried in turn, are a sound reader. -/
theorem Sound.or {R : α → Text → Prop} {read? other? : Reader α} (h : Sound R read?)
    (hother : Sound R other?) : Sound R fun t => (read? t).or (other? t) := by
  intro a t rest hread
  rcases Option.or_eq_some_iff.1 hread with hfirst | ⟨-, hsecond⟩
  · exact h hfirst
  · exact hother hsecond

/-- What was read of something that is made of what a reader takes. -/
theorem map_fst_eq_some_iff {f : α → β} {x : Option (α × Text)} {b : β} :
    x.map (Prod.map f id) = some (b, rest) ↔ ∃ a, x = some (a, rest) ∧ f a = b := by
  simp [Option.map_eq_some_iff]

/-! ## Characters of a string -/

def plain? : Reader Char
  | c :: rest => if isPlain c then some (c, rest) else none
  | [] => none

def sign? : Reader Char
  | '\\' :: d :: rest => (escapeSigns.lookup d).map (·, rest)
  | _ => none

def codeUnit? : Reader Nat
  | '\\' :: 'u' :: a :: b :: c :: d :: rest => (Go.hexNumber? [a, b, c, d]).map (·, rest)
  | _ => none

def numbered? (t : Text) : Option (Char × Text) := do
  let (n, behind) ← codeUnit? t
  match Text.ofCodePoint? n with
  | some c => some (c, behind)
  -- A surrogate has no character of its own, so it must be the first of a pair.
  | none => do
      let (m, behind) ← codeUnit? behind
      (surrogatePair? n m).map (·, behind)

/-- One character inside a string, in whatever way it is written. -/
def character? (t : Text) : Option (Char × Text) :=
  (plain? t).or ((sign? t).or (numbered? t))

/-- A plain character stands for itself. -/
theorem plain?_sound : Sound IsCharacter plain? := by
  intro c t rest h
  cases t with
  | nil => cases h
  | cons d t =>
    simp only [plain?, Option.ite_none_right_eq_some, Option.some.injEq, Prod.mk.injEq] at h
    obtain ⟨hplain, rfl, rfl⟩ := h
    exact ⟨[d], .plain hplain, rfl⟩

theorem sign?_sound : Sound IsCharacter sign? := by
  intro c t rest h
  unfold sign? at h
  split at h
  · next d rest' =>
    simp only [Option.map_eq_some_iff, Prod.mk.injEq] at h
    obtain ⟨c, hsign, rfl, rfl⟩ := h
    exact ⟨['\\', d], .sign hsign, rfl⟩
  · cases h

/-- Four hexadecimal digits are a code unit. -/
theorem codeUnit?_sound : Sound IsCodeUnit codeUnit? := by
  intro n t rest h
  unfold codeUnit? at h
  split at h
  · next a b c d rest' =>
    simp only [Option.map_eq_some_iff, Prod.mk.injEq] at h
    obtain ⟨n, hnumber, rfl, rfl⟩ := h
    exact ⟨['\\', 'u', a, b, c, d], .mk hnumber, rfl⟩
  · cases h

theorem codeUnit?_append (h : IsCodeUnit n w) (rest : Text) :
    codeUnit? (w ++ rest) = some (n, rest) := by
  cases h with
  | mk h => simp [codeUnit?, h]

/-- One unit or a pair of them is read as the character they number. -/
theorem numbered?_sound : Sound IsCharacter numbered? := by
  intro c t rest h
  simp only [numbered?, Option.bind_eq_bind, Option.bind_eq_some_iff, Prod.exists] at h
  obtain ⟨n, behind, hfirst, h⟩ := h
  obtain ⟨u, hu, rfl⟩ := codeUnit?_sound hfirst
  split at h
  · next d hpoint =>
    cases h
    exact ⟨u, .unit hu hpoint, rfl⟩
  · simp only [Option.bind_eq_some_iff, Option.map_eq_some_iff, Prod.exists, Prod.mk.injEq] at h
    obtain ⟨m, behind', hsecond, c, hpair, rfl, rfl⟩ := h
    obtain ⟨w, hw, rfl⟩ := codeUnit?_sound hsecond
    exact ⟨u ++ w, .pair hu hw hpair, (List.append_assoc ..).symm⟩

/-- What is read as a character is written in one of the ways. -/
theorem character?_sound : Sound IsCharacter character? :=
  plain?_sound.or (sign?_sound.or numbered?_sound)

/-- No surrogate has a character of its own. -/
theorem ofCodePoint?_of_surrogatePair? {m : Nat} (h : surrogatePair? n m = some c) :
    Text.ofCodePoint? n = none := by
  simp only [surrogatePair?, Option.ite_none_right_eq_some] at h
  have hinvalid : ¬ n.isValidChar := by
    simp only [Nat.isValidChar]
    omega
  exact dif_neg hinvalid

/-- An escape by number is neither a character that stands for itself nor one by its sign. -/
theorem character?_of_isCodeUnit (h : IsCodeUnit n w) (rest : Text) :
    character? (w ++ rest) = numbered? (w ++ rest) := by
  have hplain : isPlain '\\' = false := rfl
  have hsign : escapeSigns.lookup 'u' = none := rfl
  cases h with
  | mk h => simp [character?, plain?, sign?, hplain, hsign]

/-- The forms of a character are told apart by how they begin. -/
theorem character?_append (h : IsCharacter c w) (rest : Text) :
    character? (w ++ rest) = some (c, rest) := by
  cases h with
  | plain h => simp [character?, plain?, h]
  | sign h =>
    have hplain : isPlain '\\' = false := rfl
    simp [character?, plain?, sign?, hplain, h]
  | unit hw hc =>
    rw [character?_of_isCodeUnit hw, numbered?, codeUnit?_append hw]
    simp [hc]
  | @pair m n c u w hu hw hc =>
    have hnone := ofCodePoint?_of_surrogatePair? hc
    rw [List.append_assoc, character?_of_isCodeUnit hu, numbered?, codeUnit?_append hu]
    simp [hnone, codeUnit?_append hw, hc]

/-! ## Strings -/

/-- The characters up to the closing quote, of which there are less than `n`. -/
def inside? : Nat → Reader Text
  | 0, _ => none
  | n + 1, t =>
      match t with
      | [] => none
      | c :: rest =>
          if c = '"' then some ([], rest)
          else do
            let (first, behind) ← character? t
            (inside? n behind).map (Prod.map (first :: ·) id)

def string? (t : Text) : Option (Text × Text) := do
  let inner ← Text.after? ['"'] t
  inside? (inner.length + 1) inner

/-- What is read up to the quote is the inside of a string. -/
theorem inside?_sound {n : Nat} (h : inside? n t = some (s, rest)) :
    ∃ u, IsInside s u ∧ t = u ++ '"' :: rest := by
  induction n generalizing t s with
  | zero => cases h
  | succ n ih =>
    cases t with
    | nil => cases h
    | cons c t =>
      simp only [inside?] at h
      split_ifs at h with hquote
      · cases h
        exact ⟨[], .nil, by rw [hquote]; rfl⟩
      · simp only [Option.bind_eq_bind, Option.bind_eq_some_iff, Prod.exists,
          map_fst_eq_some_iff] at h
        obtain ⟨first, behind, hfirst, s, hrest, rfl⟩ := h
        obtain ⟨w, hw, ht⟩ := character?_sound hfirst
        obtain ⟨u, hu, rfl⟩ := ih hrest
        exact ⟨w ++ u, .cons hw hu, by rw [ht, List.append_assoc]⟩

/-- No character is written with a quote in front, nor with nothing. -/
theorem IsCharacter.exists_cons (h : IsCharacter c w) : ∃ d u, w = d :: u ∧ d ≠ '"' := by
  cases h with
  | plain h =>
    simp only [isPlain, Bool.and_eq_true, decide_eq_true_eq] at h
    exact ⟨c, [], rfl, h.1.2⟩
  | sign h => exact ⟨_, _, rfl, by decide⟩
  | unit hw hc =>
    cases hw with
    | mk h => exact ⟨_, _, rfl, by decide⟩
  | pair hu hw hc =>
    cases hu with
    | mk h => exact ⟨_, _, rfl, by decide⟩

/-- The inside of a string is read up to the quote, if the fuel exceeds its length. -/
theorem inside?_append {n : Nat} (h : IsInside s u) (hn : u.length < n) (rest : Text) :
    inside? n (u ++ '"' :: rest) = some (s, rest) := by
  induction h generalizing n with
  | nil =>
    cases n with
    | zero => cases hn
    | succ n => rfl
  | @cons c s w u h hs ih =>
    -- No form of a character begins with a quote, so the string does not end here.
    obtain ⟨d, w', rfl, hquote⟩ := h.exists_cons
    cases n with
    | zero => cases hn
    | succ n =>
      have hfirst := character?_append h (u ++ '"' :: rest)
      have hrest := ih (n := n) (by simp at hn; omega)
      simp only [List.cons_append, List.append_assoc] at hfirst ⊢
      simp [inside?, hquote, hfirst, hrest]

/-- What is read as a string is written as one. -/
theorem string?_sound : Sound IsString string? := by
  intro s t rest h
  simp only [string?, Option.bind_eq_bind, Option.bind_eq_some_iff, Text.after?_eq_some_iff] at h
  obtain ⟨inner, rfl, hinside⟩ := h
  obtain ⟨u, hu, hinner⟩ := inside?_sound hinside
  exact ⟨'"' :: (u ++ ['"']), .mk hu, by simp [hinner]⟩

/-- A string of the grammar is read whole. -/
theorem string?_append (h : IsString s w) (rest : Text) :
    string? (w ++ rest) = some (s, rest) := by
  cases h with
  | @mk u h =>
    have hlength : u.length < (u ++ '"' :: rest).length + 1 := by
      rw [List.length_append]
      omega
    have hinside := inside?_append h hlength rest
    simpa [string?, Text.after?] using hinside

end Json

end Listing

end ErrorCatalog
