import ErrorCatalog.Text.Basic
/-!
# Tables in ascending order of keys

A table is a list of keys with values. `SortedTable.put` keeps the keys in strictly ascending order;
the view of a table is `SortedTable.get?`, and putting a value changes the view at its key only.
-/

namespace ErrorCatalog

/-- A list of keys with values, built by `put` from the empty list. -/
abbrev SortedTable (κ α : Type) := List (κ × α)

namespace SortedTable

variable {κ α : Type} [DecidableEq κ] [LT κ] [DecidableLT κ]

/-- Gives a key a value, whether it had one before or not. -/
def put (key : κ) (value : α) : SortedTable κ α → SortedTable κ α
  | [] => [(key, value)]
  | (other, known) :: rest =>
      if key = other then (key, value) :: rest
      else if key < other then (key, value) :: (other, known) :: rest
      else (other, known) :: put key value rest

def get? (table : SortedTable κ α) (key : κ) : Option α :=
  (table.find? fun row => row.1 = key).map Prod.snd

def keys (table : SortedTable κ α) : List κ :=
  table.map Prod.fst

/-- The table of the pairs put one after the other, so that the last value of a key counts. -/
def ofPairs (pairs : List (κ × α)) : SortedTable κ α :=
  pairs.foldl (fun table (key, value) => put key value table) []

omit [LT κ] [DecidableLT κ] in
/-- A look-up meets the rows in order. -/
theorem get?_cons (key other : κ) (value : α) (table : SortedTable κ α) :
    get? ((other, value) :: table) key = if other = key then some value else get? table key := by
  by_cases h : other = key <;> simp [get?, h]

/-- A key has the value put last, every other key the value it had. -/
theorem get?_put (table : SortedTable κ α) (key other : κ) (value : α) :
    get? (put key value table) other = if key = other then some value else get? table other := by
  induction table with
  | nil => simp [put, get?_cons]
  | cons row rest ih =>
    obtain ⟨known, old⟩ := row
    by_cases hkey : key = known
    · subst hkey
      by_cases h : key = other <;> simp [put, get?_cons, h]
    · by_cases hlt : key < known
      · simp [put, hkey, hlt, get?_cons]
      · rw [put, if_neg hkey, if_neg hlt, get?_cons, ih, get?_cons]
        by_cases h : known = other
        · subst h
          simp [hkey]
        · simp [h]

end SortedTable

end ErrorCatalog
