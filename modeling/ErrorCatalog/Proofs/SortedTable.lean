import ErrorCatalog.SortedTable
import Mathlib.Data.List.Basic
import Mathlib.Order.RelClasses
/-!
# Look-ups in tables

A table has a value for exactly the keys that it lists. Putting a value adds its row and no other,
and keeps the keys in strictly ascending order, so a table that is built from pairs lists no key
twice and has no row that is not one of the pairs. Putting a row that is in place changes nothing.
-/

namespace ErrorCatalog

namespace SortedTable

variable {κ α : Type} [DecidableEq κ]

/-- A lookup fails exactly on a key that the table does not have. -/
theorem get?_eq_none_iff (table : SortedTable κ α) (key : κ) :
    get? table key = none ↔ key ∉ keys table := by
  induction table with
  | nil => simp [get?, keys]
  | cons row rest ih =>
    rcases row with ⟨other, value⟩
    by_cases h : other = key
    · simp [get?_cons, keys, h]
    · simpa [get?_cons, keys, h, Ne.symm h] using ih

/-- What a lookup finds is a row of the table. -/
theorem mem_of_get?_eq_some {table : SortedTable κ α} {key : κ} {value : α}
    (h : get? table key = some value) : (key, value) ∈ table := by
  rcases Option.map_eq_some_iff.1 h with ⟨row, hfind, hvalue⟩
  have hkey : row.1 = key := by simpa using List.find?_some hfind
  have hrow := List.mem_of_find?_eq_some hfind
  rwa [← hkey, ← hvalue]

/-- Without the rows of a key the table has no value for it; all other values are as they were. -/
theorem get?_filter_ne [BEq κ] [LawfulBEq κ] (table : SortedTable κ α) (key other : κ) :
    get? (table.filter fun row => row.1 != key) other =
      if key = other then none else get? table other := by
  induction table with
  | nil => simp [get?]
  | cons row rest ih =>
    rcases row with ⟨known, value⟩
    by_cases hkey : known = key
    · subst hkey
      by_cases hother : known = other
      · subst hother
        simpa using ih
      · simpa [get?_cons, hother] using ih
    -- A row of another key is kept, so it is found in both tables or in none.
    · by_cases hother : known = other
      · subst hother
        simp [hkey, Ne.symm hkey, get?_cons]
      · simp [hkey, hother, get?_cons, ih]

/-! ## Rows -/

variable [LT κ] [DecidableLT κ] {table : SortedTable κ α} {row : κ × α} {key : κ} {value : α}

/-- A row of the new table is the one put in or an old one. -/
theorem mem_of_mem_put (h : row ∈ put key value table) : row = (key, value) ∨ row ∈ table := by
  induction table with
  | nil => exact .inl (by simpa [put] using h)
  | cons first rest ih =>
    unfold put at h
    split_ifs at h with heq hlt
    · -- The row of the key itself is replaced.
      rcases List.mem_cons.1 h with hrow | hrest
      · exact .inl hrow
      · exact .inr (List.mem_cons_of_mem first hrest)
    · exact List.mem_cons.1 h
    · rcases List.mem_cons.1 h with hrow | hrest
      · exact .inr (hrow ▸ List.mem_cons_self)
      · exact (ih hrest).imp_right (List.mem_cons_of_mem first)

theorem mem_of_mem_foldl_put {pairs : List (κ × α)}
    (h : row ∈ pairs.foldl (fun table (key, value) => put key value table) table) :
    row ∈ pairs ∨ row ∈ table := by
  induction pairs generalizing table with
  | nil => exact .inr h
  | cons first pairs ih =>
    rcases ih h with hpairs | hput
    · exact .inl (List.mem_cons_of_mem first hpairs)
    · rcases mem_of_mem_put hput with rfl | htable
      · exact .inl List.mem_cons_self
      · exact .inr htable

/-- The rows of a table are among the pairs it was made of. -/
theorem mem_of_mem_ofPairs {pairs : List (κ × α)} (h : row ∈ ofPairs pairs) : row ∈ pairs := by
  simpa using mem_of_mem_foldl_put h

/-- A new key adds one row to the table and takes none away. -/
theorem perm_put (h : key ∉ keys table) : (put key value table).Perm ((key, value) :: table) := by
  induction table with
  | nil => exact .refl _
  | cons first rest ih =>
    rcases first with ⟨other, known⟩
    have hne : key ≠ other := fun heq => h (heq ▸ List.mem_cons_self)
    have hrest : key ∉ keys rest := fun hmem => h (List.mem_cons_of_mem other hmem)
    by_cases hlt : key < other
    · simp only [put, if_neg hne, if_pos hlt]
      exact .refl _
    · simp only [put, if_neg hne, if_neg hlt]
      exact ((ih hrest).cons _).trans (.swap _ _ _)

theorem perm_foldl_put {pairs : List (κ × α)}
    (h : ((pairs ++ table).map Prod.fst).Nodup) :
    (pairs.foldl (fun table (key, value) => put key value table) table).Perm (pairs ++ table) := by
  induction pairs generalizing table with
  | nil => exact .refl _
  | cons first pairs ih =>
    have hput : (put first.1 first.2 table).Perm (first :: table) := by
      apply perm_put
      intro hmem
      have hnot : first.1 ∉ (pairs ++ table).map Prod.fst := (List.nodup_cons.1 h).1
      exact hnot (List.map_append ▸ List.mem_append_right _ hmem)
    -- The first pair moves behind the other pairs, to the front of the table.
    have hmove : (pairs ++ put first.1 first.2 table).Perm (first :: pairs ++ table) :=
      (hput.append_left pairs).trans List.perm_middle
    exact (ih ((hmove.map Prod.fst).nodup_iff.2 h)).trans hmove

/-- A table of pairs with distinct keys lists exactly these pairs. -/
theorem perm_ofPairs {pairs : List (κ × α)} (h : (pairs.map Prod.fst).Nodup) :
    (ofPairs pairs).Perm pairs := by
  have hfold : (ofPairs pairs).Perm (pairs ++ []) := perm_foldl_put (by rwa [List.append_nil])
  rwa [List.append_nil] at hfold

/-! ## Ascending keys -/

/-- Each key is below all that follow it. -/
def IsAscending (table : SortedTable κ α) : Prop :=
  table.Pairwise fun row other => row.1 < other.1

variable [IsStrictTotalOrder κ (· < ·)]

/-- Putting in a row keeps the keys in order. -/
theorem IsAscending.put (h : IsAscending table) (key : κ) (value : α) :
    IsAscending (put key value table) := by
  induction table with
  | nil => exact List.pairwise_singleton _ _
  | cons first rest ih =>
    rcases first with ⟨other, known⟩
    rcases List.pairwise_cons.1 h with ⟨hfirst, hrest⟩
    unfold SortedTable.put
    split_ifs with heq hlt
    · refine List.pairwise_cons.2 ⟨?_, hrest⟩
      intro row hrow
      exact heq ▸ hfirst row hrow
    · refine List.pairwise_cons.2 ⟨?_, h⟩
      intro row hrow
      rcases List.mem_cons.1 hrow with rfl | hrow
      · exact hlt
      · exact trans_of (· < ·) hlt (hfirst row hrow)
    · -- The key is neither `other` nor below it, so it belongs behind `other`.
      have hgt : other < key := by
        rcases trichotomous_of (· < ·) key other with hkey | hkey | hkey
        · exact absurd hkey hlt
        · exact absurd hkey heq
        · exact hkey
      refine List.pairwise_cons.2 ⟨?_, ih hrest⟩
      intro row hrow
      rcases mem_of_mem_put hrow with rfl | hrow
      · exact hgt
      · exact hfirst row hrow

theorem IsAscending.foldl_put (h : IsAscending table) (pairs : List (κ × α)) :
    IsAscending
      (pairs.foldl (fun table (key, value) => SortedTable.put key value table) table) := by
  induction pairs generalizing table with
  | nil => exact h
  | cons first pairs ih => exact ih (h.put first.1 first.2)

/-- However the pairs come, the table is in order. -/
theorem isAscending_ofPairs (pairs : List (κ × α)) : IsAscending (ofPairs pairs) :=
  IsAscending.foldl_put List.Pairwise.nil pairs

/-! ## The last pair of a key -/

omit [LT κ] [DecidableLT κ] [IsStrictTotalOrder κ (· < ·)] in
theorem get?_append (left right : SortedTable κ α) (key : κ) :
    get? (left ++ right) key = (get? left key).or (get? right key) := by
  induction left with
  | nil => rfl
  | cons row left ih =>
    rcases row with ⟨other, known⟩
    rw [List.cons_append, get?_cons, get?_cons]
    by_cases h : other = key
    · simp [h]
    · simpa [h] using ih

omit [IsStrictTotalOrder κ (· < ·)] in
/-- The last pair put in is the first that is found. -/
theorem get?_foldl_put (pairs : List (κ × α)) (table : SortedTable κ α) (key : κ) :
    get? (pairs.foldl (fun table (key, value) => put key value table) table) key
      = get? (pairs.reverse ++ table) key := by
  induction pairs generalizing table with
  | nil => rfl
  | cons first pairs ih =>
    rcases first with ⟨other, value⟩
    -- The pair that is put in last stands first when the pairs are reversed.
    calc
      get? (((other, value) :: pairs).foldl (fun table (key, value) => put key value table) table)
          key = get? (pairs.reverse ++ put other value table) key := ih (put other value table)
      _ = (get? pairs.reverse key).or (get? ((other, value) :: table) key) := by
          rw [get?_append, get?_put, get?_cons]
      _ = get? (((other, value) :: pairs).reverse ++ table) key := by
          rw [List.reverse_cons, List.append_assoc, get?_append]
          rfl

omit [IsStrictTotalOrder κ (· < ·)] in
/-- Looking a key up in a table of pairs finds what a search from the last pair on finds. -/
theorem get?_ofPairs (pairs : List (κ × α)) (key : κ) :
    get? (ofPairs pairs) key = get? pairs.reverse key := by
  have hfold := get?_foldl_put pairs [] key
  rwa [List.append_nil] at hfold

omit [LT κ] [DecidableLT κ] [IsStrictTotalOrder κ (· < ·)] in
/-- What is found from behind is the last pair of its key. -/
theorem get?_reverse_eq_some_iff {pairs : List (κ × α)} :
    get? pairs.reverse key = some value ↔
      ∃ before after, pairs = before ++ (key, value) :: after ∧ key ∉ keys after := by
  induction pairs with
  | nil => simp [get?]
  | cons first pairs ih =>
    rcases first with ⟨other, known⟩
    rw [List.reverse_cons, get?_append]
    constructor
    · intro h
      cases hlater : get? pairs.reverse key with
      | some found =>
        rw [hlater] at h
        rcases ih.1 (hlater.trans h) with ⟨before, after, rfl, hafter⟩
        exact ⟨(other, known) :: before, after, rfl, hafter⟩
      | none =>
        rw [hlater, get?_cons] at h
        have hnot : key ∉ keys pairs.reverse := (get?_eq_none_iff pairs.reverse key).1 hlater
        by_cases heq : other = key
        · -- No later pair has the key, so the first one counts.
          have hvalue : known = value := by simpa [heq] using h
          refine ⟨[], pairs, by rw [heq, hvalue]; rfl, ?_⟩
          simpa [keys] using hnot
        · simp [heq, get?] at h
    · rintro ⟨before, after, hpairs, hafter⟩
      cases before with
      | nil =>
        cases hpairs
        have hnone : get? pairs.reverse key = none := by
          rw [get?_eq_none_iff]
          simpa [keys] using hafter
        rw [hnone, get?_cons, if_pos rfl]
        rfl
      | cons first before =>
        cases hpairs
        rw [ih.2 ⟨before, after, rfl, hafter⟩]
        rfl

omit [DecidableLT κ] in
theorem IsAscending.mem_iff (h : IsAscending table) :
    (key, value) ∈ table ↔ get? table key = some value := by
  induction table with
  | nil => simp [get?]
  | cons first rest ih =>
    rcases first with ⟨other, known⟩
    rcases List.pairwise_cons.1 h with ⟨hfirst, hrest⟩
    rw [get?_cons, List.mem_cons, ih hrest]
    by_cases heq : other = key
    · -- The key is below all keys that follow, so it is not among them.
      have hnone : get? rest key = none := by
        rw [get?_eq_none_iff]
        intro hmem
        rcases List.mem_map.1 hmem with ⟨row, hrow, hkey⟩
        have hlt : other < row.1 := hfirst row hrow
        rw [heq, hkey] at hlt
        exact irrefl_of (· < ·) key hlt
      simp [heq, hnone, eq_comm]
    · simp [heq, Ne.symm heq]

/-- A table of pairs has a row for each key: the last pair of that key. -/
theorem mem_ofPairs_iff {pairs : List (κ × α)} :
    (key, value) ∈ ofPairs pairs ↔
      ∃ before after, pairs = before ++ (key, value) :: after ∧ key ∉ keys after := by
  rw [(isAscending_ofPairs pairs).mem_iff, get?_ofPairs, get?_reverse_eq_some_iff]

omit [IsStrictTotalOrder κ (· < ·)] in
theorem mem_keys_ofPairs_iff {pairs : List (κ × α)} :
    key ∈ keys (ofPairs pairs) ↔ key ∈ pairs.map Prod.fst := by
  have hnone : get? (ofPairs pairs) key = none ↔ key ∉ pairs.map Prod.fst := by
    rw [get?_ofPairs, get?_eq_none_iff]
    simp [keys]
  rw [← not_iff_not, ← hnone, get?_eq_none_iff]

/-! ## Putting again -/

omit [IsStrictTotalOrder κ (· < ·)] in
/-- Putting in a row twice is putting it in once. -/
theorem put_put (key : κ) (value : α) (table : SortedTable κ α) :
    put key value (put key value table) = put key value table := by
  induction table with
  | nil => simp [put]
  | cons first rest ih =>
    rcases first with ⟨other, known⟩
    by_cases heq : key = other
    · simp [put, heq]
    · by_cases hlt : key < other
      · simp [put, heq, hlt]
      · simp [put, heq, hlt, ih]

/-- A row that is in place stays in place when another key gets a value, so putting it again still
changes nothing. -/
theorem put_put_of_ne {other : κ} (known : α) (h : put key value table = table)
    (hne : key ≠ other) : put key value (put other known table) = put other known table := by
  induction table with
  | nil => cases h
  | cons first rest ih =>
    rcases first with ⟨here, old⟩
    by_cases heq : key = here
    · subst heq
      have hvalue : (key, value) :: rest = (key, old) :: rest := by simpa [put] using h
      cases hvalue
      by_cases hlt : other < key
      · -- The new row comes right before the row of the key.
        have hgt : ¬ key < other := asymm_of (· < ·) hlt
        simp [put, hne, Ne.symm hne, hlt, hgt]
      · simp [put, Ne.symm hne, hlt]
    · have hlt : ¬ key < here := by
        -- Otherwise the key would have got a row more.
        intro hlt
        have hlength := congrArg List.length h
        simp [put, heq, hlt] at hlength
      have hrest : put key value rest = rest := by simpa [put, heq, hlt] using h
      by_cases hother : other = here
      · simp [put, hother, heq, hlt, hrest]
      · by_cases hbelow : other < here
        · have hkey : ¬ key < other := fun hkey => hlt (trans_of (· < ·) hkey hbelow)
          simp [put, hother, hbelow, hne, hkey, heq, hlt, hrest]
        · simp [put, hother, hbelow, heq, hlt, ih hrest]

end SortedTable

end ErrorCatalog
