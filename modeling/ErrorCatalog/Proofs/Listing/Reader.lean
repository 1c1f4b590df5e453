import ErrorCatalog.Proofs.Listing.Numbers
/-!
# Reading JSON

`Json.read?` reads a whole text. Arrays and objects are read by one loop, which is told how an item
is read and which bracket closes. Whatever a reader takes is written in the grammar.
-/

namespace ErrorCatalog

namespace Listing

namespace Json

variable {α : Type} {close : Char} {n : Nat} {t rest : Text}

/-! ## Readers -/

def skipGap (t : Text) : Text :=
  t.dropWhile isGapChar

def text? (inner? : Reader Value) (t : Text) : Option (Value × Text) :=
  (inner? (skipGap t)).map (Prod.map id skipGap)

def member? (inner? : Reader Value) (t : Text) : Option ((Text × Value) × Text) := do
  let (name, behind) ← string? (skipGap t)
  let behind ← Text.after? [':'] (skipGap behind)
  (text? inner? behind).map (Prod.map (name, ·) id)

/-- One item or more with commas between them, at most `n`, up to the closing bracket. -/
def separated? (item? : Reader α) (close : Char) : Nat → Reader (List α)
  | 0, _ => none
  | n + 1, t => do
      let (first, behind) ← item? t
      match behind with
      | [] => none
      | c :: rest =>
          if c = close then some ([first], rest)
          else if c = ',' then (separated? item? close n rest).map (Prod.map (first :: ·) id)
          else none

/-- Any number of items up to the closing bracket. -/
def enclosed? (item? : Reader α) (close : Char) (n : Nat) (t : Text) : Option (List α × Text) :=
  match skipGap t with
  | [] => none
  | c :: rest => if c = close then some ([], rest) else separated? item? close n t

def word? (t : Text) : Option (Value × Text) :=
  words.findSome? fun (word, v) => (Text.after? word t).map (v, ·)

/-- A value in which nothing is nested `n` deep and no list has `n` items. -/
def value? : Nat → Reader Value
  | 0, _ => none
  | _ + 1, [] => none
  | n + 1, c :: rest =>
      if c = '"' then (string? (c :: rest)).map (Prod.map .string id)
      else if c = '[' then (enclosed? (text? (value? n)) ']' n rest).map (Prod.map .array id)
      else if c = '\x7b' then
        (enclosed? (member? (value? n)) '\x7d' n rest).map (Prod.map .object id)
      -- No word begins like a number, so it does not matter which of the two is tried first.
      else (word? (c :: rest)).or
        ((number? (c :: rest)).map (Prod.map (fun m => .number m.1 m.2) id))

def read? (t : Text) : Option Value :=
  match text? (value? t.length) t with
  | some (v, []) => some v
  | _ => none

/-! ## What is read is written -/

/-- What is skipped is a gap. -/
theorem exists_isGap (t : Text) : ∃ u, IsGap u ∧ t = u ++ skipGap t :=
  ⟨t.takeWhile isGapChar, fun _ hc => List.mem_takeWhile_imp hc,
    List.takeWhile_append_dropWhile.symm⟩

/-- A notation for lists of which the parts are written in the notation `R`, with commas between
them. -/
structure IsListOf (R : α → Text → Prop) (L : List α → Text → Prop) : Prop where
  last {a : α} {t : Text} (h : R a t) : L [a] t
  cons {a : α} {as : List α} {t u : Text} (h : R a t) (hs : L as u) : L (a :: as) (t ++ ',' :: u)

/-- The items of an array are a list of texts. -/
theorem isListOf_items :
    IsListOf (fun v t => IsWritten (.text v) t) (fun vs t => IsWritten (.items vs) t) :=
  ⟨.lastItem, .item⟩

/-- The members of an object are a list. -/
theorem isListOf_members :
    IsListOf (fun m t => IsWritten (.member m) t) (fun ms t => IsWritten (.members ms) t) :=
  ⟨.lastMember, .moreMembers⟩

theorem word?_sound : Sound (fun v w => IsWritten (.value v) w) word? := by
  intro v t rest h
  obtain ⟨⟨word, v'⟩, hword, hread⟩ := List.exists_of_findSome?_eq_some h
  simp only [Option.map_eq_some_iff, Text.after?_eq_some_iff, Prod.mk.injEq] at hread
  obtain ⟨rest, rfl, rfl, rfl⟩ := hread
  exact ⟨word, .word hword, rfl⟩

/-- A sound reader of values gives one of values with gaps around them. -/
theorem text?_sound {inner? : Reader Value}
    (h : Sound (fun v w => IsWritten (.value v) w) inner?) :
    Sound (fun v w => IsWritten (.text v) w) (text? inner?) := by
  intro v t rest hread
  simp only [text?, Option.map_eq_some_iff, Prod.exists, Prod.map_apply, id, Prod.mk.injEq] at hread
  obtain ⟨v, behind, hvalue, rfl, rfl⟩ := hread
  obtain ⟨u, hu, ht⟩ := exists_isGap t
  obtain ⟨w, hw, hvalue⟩ := h hvalue
  obtain ⟨g, hg, hbehind⟩ := exists_isGap behind
  refine ⟨u ++ w ++ g, .text hu hw hg, ?_⟩
  calc t = u ++ (w ++ behind) := by rw [← hvalue, ← ht]
    _ = u ++ (w ++ (g ++ skipGap behind)) := by rw [← hbehind]
    _ = u ++ w ++ g ++ skipGap behind := by simp only [List.append_assoc]

/-- A sound reader of values gives one of members. -/
theorem member?_sound {inner? : Reader Value}
    (h : Sound (fun v w => IsWritten (.value v) w) inner?) :
    Sound (fun m w => IsWritten (.member m) w) (member? inner?) := by
  intro m t rest hread
  simp only [member?, Option.bind_eq_bind, Option.bind_eq_some_iff, Prod.exists,
    Text.after?_eq_some_iff, map_fst_eq_some_iff] at hread
  obtain ⟨name, behind, hname, inner, hcolon, v, hvalue, rfl⟩ := hread
  obtain ⟨u, hu, ht⟩ := exists_isGap t
  obtain ⟨w, hw, hname⟩ := string?_sound hname
  obtain ⟨g, hg, hbehind⟩ := exists_isGap behind
  obtain ⟨x, hx, hinner⟩ := text?_sound h hvalue
  refine ⟨u ++ w ++ g ++ ':' :: x, .member hu hw hg hx, ?_⟩
  -- The parts are put together again in the order in which they were read.
  calc t = u ++ (w ++ (g ++ ':' :: (x ++ rest))) := by
        rw [ht, hname, hbehind, hcolon, hinner]
        rfl
    _ = u ++ w ++ g ++ ':' :: x ++ rest := by simp

/-- Elements that are read one after the other are written so. The induction is on the fuel. -/
theorem separated?_sound {item? : Reader α} {R : α → Text → Prop} {L : List α → Text → Prop}
    {as : List α} (hitem : Sound R item?) (hL : IsListOf R L)
    (h : separated? item? close n t = some (as, rest)) : ∃ w, L as w ∧ t = w ++ close :: rest := by
  induction n generalizing t as with
  | zero => cases h
  | succ n ih =>
    simp only [separated?, Option.bind_eq_bind, Option.bind_eq_some_iff, Prod.exists] at h
    obtain ⟨first, behind, hfirst, h⟩ := h
    obtain ⟨w, hw, rfl⟩ := hitem hfirst
    cases behind with
    | nil => cases h
    | cons c behind =>
      dsimp only at h
      -- Behind an item stands the closing mark, or a comma and more items.
      split_ifs at h with hclose hcomma
      · cases h
        exact ⟨w, hL.last hw, by rw [hclose]⟩
      · obtain ⟨as, hrest, rfl⟩ := map_fst_eq_some_iff.1 h
        obtain ⟨u, hu, rfl⟩ := ih hrest
        exact ⟨w ++ ',' :: u, hL.cons hw hu, by simp [hcomma]⟩

/-- Between its marks stands a gap or a list. -/
theorem enclosed?_sound {item? : Reader α} {R : α → Text → Prop} {L : List α → Text → Prop}
    {as : List α} (hitem : Sound R item?) (hL : IsListOf R L)
    (h : enclosed? item? close n t = some (as, rest)) :
    ∃ w, (as = [] ∧ IsGap w ∨ L as w) ∧ t = w ++ close :: rest := by
  unfold enclosed? at h
  split at h
  · cases h
  · next c behind hskip =>
    split_ifs at h with hclose
    · cases h
      obtain ⟨u, hu, ht⟩ := exists_isGap t
      exact ⟨u, .inl ⟨rfl, hu⟩, by rw [← hclose, ← hskip, ← ht]⟩
    · obtain ⟨w, hw, ht⟩ := separated?_sound hitem hL h
      exact ⟨w, .inr hw, ht⟩

/-- Whatever the fuel, what is read as a value is written as the grammar says. -/
theorem value?_sound (n : Nat) : Sound (fun v w => IsWritten (.value v) w) (value? n) := by
  induction n with
  | zero =>
    intro v t rest h
    cases h
  | succ n ih =>
    intro v t rest h
    cases t with
    | nil => cases h
    | cons c t =>
      simp only [value?] at h
      -- The first character tells strings, arrays and objects; words and numbers are tried in turn.
      split_ifs at h with hquote hbracket hbrace
      · obtain ⟨s, hstring, rfl⟩ := map_fst_eq_some_iff.1 h
        obtain ⟨w, hw, ht⟩ := string?_sound hstring
        exact ⟨w, .string hw, ht⟩
      · obtain ⟨vs, hitems, rfl⟩ := map_fst_eq_some_iff.1 h
        obtain ⟨w, hw, rfl⟩ := enclosed?_sound (text?_sound ih) isListOf_items hitems
        refine ⟨'[' :: (w ++ [']']), ?_, by simp [hbracket]⟩
        rcases hw with ⟨rfl, hgap⟩ | hw
        · exact .emptyArray hgap
        · exact .array hw
      · obtain ⟨ms, hmembers, rfl⟩ := map_fst_eq_some_iff.1 h
        obtain ⟨w, hw, rfl⟩ := enclosed?_sound (member?_sound ih) isListOf_members hmembers
        refine ⟨'\x7b' :: (w ++ ['\x7d']), ?_, by simp [hbrace]⟩
        rcases hw with ⟨rfl, hgap⟩ | hw
        · exact .emptyObject hgap
        · exact .object hw
      · rcases Option.or_eq_some_iff.1 h with hword | ⟨-, hnumber⟩
        · exact word?_sound hword
        · obtain ⟨m, hread, rfl⟩ := map_fst_eq_some_iff.1 hnumber
          obtain ⟨w, hw, ht⟩ := number?_sound hread
          exact ⟨w, .number hw, ht⟩

end Json

end Listing

end ErrorCatalog
