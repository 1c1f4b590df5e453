import ErrorCatalog.Entry.Basic
import Mathlib.Data.List.Basic
/-!
# The order of a catalogue

`Entry.IsStableSort` says what it is to sort entries stably: nothing is lost or added, codes ascend,
and the entries of any one code keep their order. This determines the result, and
`Entry.sortByCode` gives it.
-/

namespace ErrorCatalog

namespace Entry

/-- The entries of `sorted` are those of `entries`, in ascending order of codes; entries of one code
stand in the same order in both. -/
structure IsStableSort (entries sorted : List Entry) : Prop where
  perm : sorted.Perm entries
  ascending : sorted.Pairwise fun first second => first.code ≤ second.code
  stable : ∀ code : Int,
    sorted.filter (fun e => e.code = code) = entries.filter fun e => e.code = code

/-! ## Insertion -/

/-- An entry is inserted in front of those with the same code, which stay in order. -/
theorem filter_insertByCode (code : Int) (e : Entry) (entries : List Entry) :
    (insertByCode e entries).filter (fun other => other.code = code) =
      (e :: entries).filter fun other => other.code = code := by
  induction entries with
  | nil => rfl
  | cons first rest ih =>
    unfold insertByCode
    split
    · rfl
    · next hgt =>
      -- The two have different codes, so at most one of them passes the filter.
      have hne : ¬ (e.code = code ∧ first.code = code) := by
        rintro ⟨he, hfirst⟩
        omega
      rw [List.filter_cons, ih]
      by_cases he : e.code = code
      · have hfirst : ¬ first.code = code := fun hfirst => hne ⟨he, hfirst⟩
        simp [he, hfirst]
      · simp [he, List.filter_cons]

/-- Inserting keeps a list ascending. -/
theorem ascending_insertByCode (e : Entry) {entries : List Entry}
    (h : entries.Pairwise fun first second => first.code ≤ second.code) :
    (insertByCode e entries).Pairwise fun first second => first.code ≤ second.code := by
  induction entries with
  | nil => simp [insertByCode]
  | cons first rest ih =>
    rcases List.pairwise_cons.1 h with ⟨hfirst, hrest⟩
    unfold insertByCode
    split
    · next hle =>
      refine List.pairwise_cons.2 ⟨?_, h⟩
      intro other hother
      rcases List.mem_cons.1 hother with rfl | hother
      · exact hle
      · exact Int.le_trans hle (hfirst other hother)
    · next hgt =>
      refine List.pairwise_cons.2 ⟨?_, ih hrest⟩
      intro other hother
      -- What follows the first entry is the new one or an old one.
      rcases List.mem_cons.1 ((insertByCode_perm e rest).mem_iff.1 hother) with rfl | hother
      · omega
      · exact hfirst other hother

/-! ## Sorting -/

/-- Insertion sort is stable, since entries are inserted from the last to the first. -/
theorem isStableSort_sortByCode (entries : List Entry) :
    IsStableSort entries (sortByCode entries) := by
  refine ⟨sortByCode_perm entries, ?_, ?_⟩
  · induction entries with
    | nil => exact List.Pairwise.nil
    | cons e rest ih => exact ascending_insertByCode e ih
  · intro code
    induction entries with
    | nil => rfl
    | cons e rest ih =>
      have hinsert := filter_insertByCode code e (sortByCode rest)
      rw [List.filter_cons, ih] at hinsert
      rwa [List.filter_cons]

theorem mem_iff_of_filter_code_eq {left right : List Entry}
    (h : ∀ code : Int,
      left.filter (fun e => e.code = code) = right.filter fun e => e.code = code) (e : Entry) :
    e ∈ left ↔ e ∈ right := by
  have hiff : e ∈ left.filter (fun other => other.code = e.code) ↔
      e ∈ right.filter fun other => other.code = e.code := by
    rw [h]
  simpa using hiff

/-- In ascending order the first code is the least. -/
theorem head_code_le {first e : Entry} {rest : List Entry}
    (h : (first :: rest).Pairwise fun first second => first.code ≤ second.code)
    (he : e ∈ first :: rest) : first.code ≤ e.code := by
  rcases List.mem_cons.1 he with rfl | hrest
  · omega
  · exact (List.pairwise_cons.1 h).1 e hrest

/-- Two lists with ascending codes that agree on the entries of each code are equal. -/
theorem eq_of_filter_code_eq {left right : List Entry}
    (hleft : left.Pairwise fun first second => first.code ≤ second.code)
    (hright : right.Pairwise fun first second => first.code ≤ second.code)
    (h : ∀ code : Int,
      left.filter (fun e => e.code = code) = right.filter fun e => e.code = code) :
    left = right := by
  have hmem := mem_iff_of_filter_code_eq h
  induction left generalizing right with
  | nil =>
    cases right with
    | nil => rfl
    | cons second right => exact absurd ((hmem second).2 List.mem_cons_self) (by simp)
  | cons first left ih =>
    cases right with
    | nil => exact absurd ((hmem first).1 List.mem_cons_self) (by simp)
    | cons second right =>
      -- Each head is in the other list, so both are of the least code.
      have hcode : first.code = second.code := by
        have hle := head_code_le hleft ((hmem second).2 List.mem_cons_self)
        have hge := head_code_le hright ((hmem first).1 List.mem_cons_self)
        omega
      -- Of the entries of this code each is the first.
      have heq : first = second := by
        have hcodes := h first.code
        simp only [List.filter_cons, hcode, decide_true, if_true] at hcodes
        exact (List.cons.inj hcodes).1
      subst heq
      -- Without the common head the lists still agree on every code.
      have hrest (code : Int) : left.filter (fun e => e.code = code) =
          right.filter fun e => e.code = code := by
        have hcodes := h code
        by_cases hfirst : first.code = code
        · simpa [hfirst] using hcodes
        · simpa [hfirst] using hcodes
      rw [ih (List.pairwise_cons.1 hleft).2 (List.pairwise_cons.1 hright).2 hrest
        (mem_iff_of_filter_code_eq hrest)]

/-- A list has one stable sort. -/
theorem IsStableSort.eq_sortByCode {entries sorted : List Entry} (h : IsStableSort entries sorted) :
    sorted = sortByCode entries := by
  have hsort := isStableSort_sortByCode entries
  refine eq_of_filter_code_eq h.ascending hsort.ascending ?_
  intro code
  rw [h.stable, hsort.stable]

/-- Entries in ascending order are sorted already. -/
theorem sortByCode_of_ascending {entries : List Entry}
    (h : entries.Pairwise fun first second => first.code ≤ second.code) :
    sortByCode entries = entries :=
  (IsStableSort.eq_sortByCode ⟨.refl entries, h, fun _ => rfl⟩).symm

end Entry

end ErrorCatalog
