import ErrorCatalog.Proofs.Binding.LastMatch
import ErrorCatalog.Proofs.Binding.Tables

/-!
# Codes with a sign

A table entry begins at its digits, so a minus sign in front of them is passed over: the line of a
negative code is read as one of its absolute value. A table with distinct codes is therefore read
back as it is if and only if none of its codes is negative. Otherwise some codes come back without
their sign, and of two codes that differ in their sign only, the one that stands last is left.
-/

namespace ErrorCatalog

namespace Binding

open Text (isBlank wordLimit)

variable {binding : Text} {pairs : List (Int × Text)}

/-- One line of a name table for each code and name. -/
def nameLines (pairs : List (Int × Text)) : Text :=
  Text.unlines (pairs.map fun (code, name) => renderLine " " code name)

/-- The names are made of word characters, and the codes have absolute values that fit a signed
word. -/
def AreRows (pairs : List (Int × Text)) : Prop :=
  ∀ pair ∈ pairs, pair.1.natAbs < wordLimit ∧ pair.2 ≠ [] ∧ pair.2.all Go.isWordChar = true

instance (pairs : List (Int × Text)) : Decidable (AreRows pairs) :=
  inferInstanceAs (Decidable (∀ pair ∈ pairs,
    pair.1.natAbs < wordLimit ∧ pair.2 ≠ [] ∧ pair.2.all Go.isWordChar = true))

/-! ## What the lines declare -/

/-- The entry of a row can stand in a table, since its name is made of word characters. -/
theorem AreRows.isTabular (h : AreRows pairs) {pair : Int × Text} (hpair : pair ∈ pairs) :
    IsTabular (.internal pair.1 pair.2 []) :=
  ⟨(h pair hpair).2.1, List.all_eq_true.1 (h pair hpair).2.2⟩

/-- No name holds a line end, so there is one line for each row. -/
theorem AreRows.lines_nameLines (h : AreRows pairs) :
    Text.lines (nameLines pairs) = pairs.map fun (code, name) => renderLine " " code name := by
  refine Text.lines_unlines_of_isClean ?_
  intro line hline
  rcases List.mem_map.1 hline with ⟨pair, hpair, rfl⟩
  exact isClean_renderLine (by decide) (Text.isClean_of_isWordChar (h.isTabular hpair).name_isWord)
    pair.1

/-- The sign of a code is no part of its declaration. -/
theorem AreRows.declarations_nameLines (h : AreRows pairs) :
    declarations (nameLines pairs) = pairs.map fun (code, name) => (code.natAbs, name) := by
  -- The sign stays outside the match, so each row declares the absolute value of its code.
  have hentries : (Text.lines (nameLines pairs)).flatMap lineEntries
      = pairs.map fun (code, name) => (Text.ofNat code.natAbs, name) := by
    rw [h.lines_nameLines, List.flatMap_map, List.map_eq_flatMap]
    refine List.flatMap_congr ?_
    intro pair hpair
    have hrow := h.isTabular hpair
    have hgap : ∀ c ∈ (" " : Text), isBlank c = true := List.all_eq_true.1 rfl
    exact lineEntries_renderLine hgap hrow.name_ne_nil (hrow.not_mem rfl) pair.1
  rw [declarations, hentries, List.filterMap_map]
  refine List.filterMap_eq_map_iff_forall_eq_some.2 ?_
  intro pair hpair
  simp only [Function.comp_apply, Text.readWord?_ofNat (h pair hpair).1, Option.map_some]

/-! ## What is read back -/

/-- Signs are lost: a row is read back with the absolute value of its code, unless a later row has
the same one. -/
theorem AreRows.mem_entries_nameLines_iff (h : AreRows pairs) {e : Entry} :
    e ∈ entries (nameLines pairs) ↔ ∃ before, ∃ code : Int, ∃ name after,
      pairs = before ++ (code, name) :: after ∧ (∀ pair ∈ after, pair.1.natAbs ≠ code.natAbs)
        ∧ e = .internal code.natAbs name [] := by
  rw [mem_entries_iff, h.declarations_nameLines]
  constructor
  · rintro ⟨front, _, name, behind, heq, hbehind, rfl⟩
    rcases List.map_eq_append_iff.1 heq with ⟨before, rest, rfl, -, hrest⟩
    rcases List.map_eq_cons_iff.1 hrest with ⟨pair, after, rfl, hpair, rfl⟩
    cases hpair
    refine ⟨before, pair.1, pair.2, after, rfl, ?_, rfl⟩
    intro other hother hsame
    refine hbehind ?_
    rw [List.map_map]
    exact List.mem_map.2 ⟨other, hother, hsame⟩
  · rintro ⟨before, code, name, after, rfl, hafter, rfl⟩
    refine ⟨before.map fun (code, name) => (code.natAbs, name), code.natAbs, name,
      after.map fun (code, name) => (code.natAbs, name), by rw [List.map_append]; rfl, ?_, rfl⟩
    intro hmem
    rw [List.map_map] at hmem
    rcases List.mem_map.1 hmem with ⟨other, hother, hsame⟩
    exact hafter other hother hsame

/-- Without negative codes nothing is lost: all rows are read back as they were written. -/
theorem AreRows.perm_entries_nameLines (h : AreRows pairs) (hcodes : (pairs.map Prod.fst).Nodup)
    (hnonneg : ∀ pair ∈ pairs, 0 ≤ pair.1) :
    ((entries (nameLines pairs)).map fun e => (e.code, e.name)).Perm pairs := by
  have hkeys : ((declarations (nameLines pairs)).map Prod.fst).Nodup := by
    apply List.Nodup.of_map (fun code : Nat => (code : Int))
    rw [h.declarations_nameLines, List.map_map, List.map_map]
    -- Codes that are not negative are equal to their absolute values.
    convert hcodes using 1
    refine List.map_congr_left ?_
    intro pair hpair
    exact Int.natAbs_of_nonneg (hnonneg pair hpair)
  have hmap := (perm_entries hkeys).map fun e => (e.code, e.name)
  rw [h.declarations_nameLines, List.map_map, List.map_map] at hmap
  convert hmap using 1
  have hsame : ∀ pair ∈ pairs, ((pair.1.natAbs : Int), pair.2) = pair := by
    intro pair hpair
    rw [Int.natAbs_of_nonneg (hnonneg pair hpair)]
  exact ((List.map_congr_left hsame).trans (List.map_id pairs)).symm

/-- No entry of a binding has a negative code, since a numeral has no sign. -/
theorem code_nonneg {e : Entry} (h : e ∈ entries binding) : 0 ≤ e.code := by
  rcases (isDeclared_of_mem_entries h).code_eq with ⟨code, -, hcode⟩
  rw [hcode]
  exact Int.natCast_nonneg code

/-- The lines of a table with distinct codes are read as one entry for each absolute value, with the
name that stands last, in strictly ascending order. These are the pairs of the table if and only if
no code is negative. -/
theorem perm_nameLines_iff (pairs : List (Int × Text)) (hrows : AreRows pairs)
    (hcodes : (pairs.map Prod.fst).Nodup) :
    (entries (nameLines pairs)).Pairwise (fun e other => e.code < other.code)
      ∧ (∀ e, e ∈ entries (nameLines pairs) ↔ ∃ before, ∃ code : Int, ∃ name after,
          pairs = before ++ (code, name) :: after ∧ (∀ pair ∈ after, pair.1.natAbs ≠ code.natAbs)
            ∧ e = .internal code.natAbs name [])
      ∧ (((entries (nameLines pairs)).map fun e => (e.code, e.name)).Perm pairs
          ↔ ∀ pair ∈ pairs, 0 ≤ pair.1) := by
  refine ⟨ascending_entries _, fun e => hrows.mem_entries_nameLines_iff, ?_⟩
  constructor
  · intro hperm pair hpair
    -- A row that is found again comes from an entry, and no entry has a negative code.
    rcases List.mem_map.1 (hperm.symm.subset hpair) with ⟨e, he, rfl⟩
    exact code_nonneg he
  · exact hrows.perm_entries_nameLines hcodes

def extremePairs : List (Int × Text) :=
  [(2147483647, "A1"), (-2147483648, "12"), (0, "_")]

/-- The least code of 32 bits is read back as a positive one. -/
theorem nameLines_extremePairs :
    AreRows extremePairs ∧ (extremePairs.map Prod.fst).Nodup
      ∧ .internal 2147483648 "12" [] ∈ entries (nameLines extremePairs)
      ∧ ¬ ((entries (nameLines extremePairs)).map fun e => (e.code, e.name)).Perm extremePairs := by
  have hrows : AreRows extremePairs := by decide +kernel
  have hcodes : (extremePairs.map Prod.fst).Nodup := by decide
  rcases perm_nameLines_iff extremePairs hrows hcodes with ⟨-, hmem, hperm⟩
  refine ⟨hrows, hcodes, ?_, ?_⟩
  · exact (hmem _).2 ⟨[(2147483647, "A1")], -2147483648, "12", [(0, "_")], rfl, by decide, rfl⟩
  · rw [hperm]
    decide

/-- Two codes of 32 bits that differ in their sign are read as one. -/
theorem not_perm_nameLines_of_minus :
    nameLines [(-1, "MINUS"), (1, "PLUS")] = "\t\t-1: \"MINUS\",\n\t\t1: \"PLUS\",\n"
    ∧ entries (nameLines [(-1, "MINUS"), (1, "PLUS")]) = [.internal 1 "PLUS" []]
    ∧ ¬ ∀ pairs : List (Int × Text), (pairs.map Prod.fst).Nodup →
        (∀ pair ∈ pairs, -2147483648 ≤ pair.1 ∧ pair.1 ≤ 2147483647
          ∧ pair.2 ≠ [] ∧ pair.2.all Go.isWordChar = true) →
        ((entries (nameLines pairs)).map fun e => (e.code, e.name)).Perm pairs := by
  have hentries : entries (nameLines [(-1, "MINUS"), (1, "PLUS")]) = [.internal 1 "PLUS" []] := by
    decide +kernel
  refine ⟨by decide +kernel, hentries, ?_⟩
  intro h
  -- One entry is left of two rows.
  have hlength := (h [(-1, "MINUS"), (1, "PLUS")] (by decide) (by decide +kernel)).length_eq
  rw [hentries] at hlength
  cases hlength

end Binding

end ErrorCatalog
