import ErrorCatalog.Proofs.Binding.Scan

/-!
# The last match of a code

The matches of a binding are the table entries of its lines, line by line, whose digits are the
numeral of a code. The binding has an entry for each code among them, with the name of the last
match of that code. Of two bindings with a line feed between them, the second counts wherever it has
a code.
-/

namespace ErrorCatalog

def Entry.ofCode? (entries : List Entry) (code : Int) : Option Entry :=
  entries.find? fun e => e.code = code

namespace Binding

variable {binding : Text} {matched : List (Nat × Text)}

/-! ## Matches -/

/-- The table entries of all lines whose digits are the numeral of a code, in order. -/
def IsMatched (binding : Text) (matched : List (Nat × Text)) : Prop :=
  ∃ found : List (List (Text × Text)), List.Forall₂ IsScan (Text.lines binding) found
    ∧ matched = found.flatten.filterMap fun (digits, name) =>
        (Text.readWord? digits).map fun code => (code, name)

/-- Scanning all lines one by one is reading the entries of each. -/
theorem forall₂_isScan_iff {lines : List Text} {found : List (List (Text × Text))} :
    List.Forall₂ IsScan lines found ↔ lines.map lineEntries = found := by
  have hscan : IsScan = fun line entries => lineEntries line = entries := by
    funext line entries
    exact propext isScan_iff
  rw [← List.forall₂_eq_eq_eq, List.forall₂_map_left_iff, hscan]

/-- The matches of a binding, described by scans, are exactly its declarations. -/
theorem isMatched_iff : IsMatched binding matched ↔ matched = declarations binding := by
  simp only [IsMatched, forall₂_isScan_iff]
  constructor
  · rintro ⟨found, rfl, rfl⟩
    rfl
  · rintro rfl
    exact ⟨_, rfl, rfl⟩

/-! ## Entries of codes -/

/-- Looking for the first entry of a code is looking the code up in the table. -/
theorem ofCode?_entries_natCast (binding : Text) (code : Nat) :
    Entry.ofCode? (entries binding) code
      = (SortedTable.get? (table binding) code).map fun name => .internal code name [] := by
  unfold Entry.ofCode? entries SortedTable.get?
  rw [List.find?_map, Option.map_map]
  -- The rows have natural numbers for codes, the entries integers.
  have hkey : ((fun e : Entry => decide (e.code = (code : Int)))
      ∘ fun row : Nat × Text => Entry.internal row.1 row.2 [])
        = fun row => decide (row.1 = code) := by
    funext row
    exact decide_eq_decide.2 Int.natCast_inj
  rw [hkey]
  cases hfound : (table binding).find? fun row => decide (row.1 = code) with
  | none => rfl
  | some row =>
    have hcode : row.1 = code := by simpa using List.find?_some hfound
    simp [hcode]

/-- No entry has a negative code. -/
theorem ofCode?_entries_negSucc (binding : Text) (n : Nat) :
    Entry.ofCode? (entries binding) (Int.negSucc n) = none := by
  unfold Entry.ofCode?
  rw [List.find?_eq_none]
  intro e he
  rcases (isDeclared_of_mem_entries he).code_eq with ⟨code, -, hcode⟩
  simp [hcode]

/-- What stands behind a line feed has the last word on every code that it mentions. -/
theorem ofCode?_entries_append_feed (binding behind : Text) (code : Int) :
    Entry.ofCode? (entries (binding ++ '\n' :: behind)) code
      = (Entry.ofCode? (entries behind) code).or (Entry.ofCode? (entries binding) code) := by
  cases code with
  | ofNat code =>
    have htable : SortedTable.get? (table (binding ++ '\n' :: behind)) code
        = (SortedTable.get? (table behind) code).or (SortedTable.get? (table binding) code) := by
      simp only [table, SortedTable.get?_ofPairs, declarations_append_feed, List.reverse_append,
        SortedTable.get?_append]
    simp only [Int.ofNat_eq_natCast, ofCode?_entries_natCast, htable]
    cases SortedTable.get? (table behind) code with
    | none => rfl
    | some name => rfl
  -- No entry of a binding has a negative code.
  | negSucc n => simp only [ofCode?_entries_negSucc, Option.or_none]

/-- An entry comes from the last declaration of its code, wherever that stands. -/
theorem mem_entries_iff {e : Entry} :
    e ∈ entries binding ↔ ∃ before, ∃ code : Nat, ∃ name after,
      declarations binding = before ++ (code, name) :: after ∧ code ∉ after.map Prod.fst
        ∧ e = .internal code name [] := by
  unfold entries table
  rw [List.mem_map]
  constructor
  · rintro ⟨⟨code, name⟩, hrow, rfl⟩
    rcases SortedTable.mem_ofPairs_iff.1 hrow with ⟨before, after, heq, hafter⟩
    exact ⟨before, code, name, after, heq, hafter, rfl⟩
  · rintro ⟨before, code, name, after, heq, hafter, rfl⟩
    exact ⟨(code, name), SortedTable.mem_ofPairs_iff.2 ⟨before, after, heq, hafter⟩, rfl⟩

/-- The codes of the entries are the codes declared, once or more often. -/
theorem mem_map_code_entries_iff {code : Int} :
    code ∈ (entries binding).map Entry.code
      ↔ ∃ pair ∈ declarations binding, code = pair.1 := by
  -- The codes of the entries are the keys of the table.
  have hcodes : (entries binding).map Entry.code
      = (SortedTable.keys (table binding)).map fun code : Nat => (code : Int) := by
    simp only [entries, SortedTable.keys, List.map_map]
    rfl
  rw [hcodes, List.mem_map]
  constructor
  · rintro ⟨key, hkey, rfl⟩
    rcases List.mem_map.1 (SortedTable.mem_keys_ofPairs_iff.1 hkey) with ⟨pair, hpair, rfl⟩
    exact ⟨pair, hpair, rfl⟩
  · rintro ⟨pair, hpair, rfl⟩
    exact ⟨pair.1, SortedTable.mem_keys_ofPairs_iff.2 (List.mem_map_of_mem hpair), rfl⟩

/-- A binding determines its matches. Its entries have strictly ascending codes, these are the codes
of the matches, and each comes with the name of its last match. A binding put behind it, with a line
feed between, counts for every code that it has, and for no other. -/
theorem entries_lastMatch (binding : Text) :
    ∃ matched, (∀ other, IsMatched binding other ↔ other = matched)
      ∧ (entries binding).Pairwise (fun e other => e.code < other.code)
      ∧ (∀ code, code ∈ (entries binding).map Entry.code ↔ ∃ pair ∈ matched, code = pair.1)
      ∧ (∀ e, e ∈ entries binding ↔ ∃ before, ∃ code : Nat, ∃ name after,
          matched = before ++ (code, name) :: after ∧ code ∉ after.map Prod.fst
            ∧ e = .internal code name [])
      ∧ ∀ behind code, Entry.ofCode? (entries (binding ++ '\n' :: behind)) code
          = (Entry.ofCode? (entries behind) code).or (Entry.ofCode? (entries binding) code) := by
  refine ⟨declarations binding, fun other => isMatched_iff, ascending_entries binding, ?_, ?_, ?_⟩
  · intro code
    exact mem_map_code_entries_iff
  · intro e
    exact mem_entries_iff
  · intro behind code
    exact ofCode?_entries_append_feed binding behind code

end Binding

end ErrorCatalog
