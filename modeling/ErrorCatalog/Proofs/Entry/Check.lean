import ErrorCatalog.Entry.Check
import ErrorCatalog.Proofs.Go.Identifier
import Mathlib.Data.List.Nodup
/-!
# What the check of entries guarantees

No fault is found exactly when every identifier can stand in Go source and neither a code nor an
identifier belongs to two entries. Which fault is found depends on codes and names alone: it stays
the same when every entry is replaced by its label.
-/

namespace ErrorCatalog

namespace Entry

variable {e : Entry} {entries : List Entry}

structure AreRenderable (entries : List Entry) : Prop where
  isEntryIdentifier : ∀ e ∈ entries, isEntryIdentifier e.identifier = true
  nodup_code : (entries.map code).Nodup
  nodup_identifier : (entries.map identifier).Nodup

/-- Two entries that are neither told apart by their codes nor by their identifiers clash. -/
def AreApart (e other : Entry) : Prop :=
  e.code ≠ other.code ∧ e.identifier ≠ other.identifier

/-- An entry without fault keeps apart from those before it. -/
theorem faultAfter?_eq_none_iff (before : List Entry) :
    faultAfter? (before.map fun other => (other.identifier, other)) e.identifier e = none ↔
      isEntryIdentifier e.identifier = true ∧ ∀ other ∈ before, AreApart other e := by
  have hcode : ((before.map fun other => (other.identifier, other)).find?
      fun other => other.2.code = e.code) = none ↔ ∀ other ∈ before, other.code ≠ e.code := by
    simp
  have hname : ((before.map fun other => (other.identifier, other)).find?
      fun other => other.1 = e.identifier) = none ↔
        ∀ other ∈ before, other.identifier ≠ e.identifier := by
    simp
  -- Being apart is two conditions, and the check looks for each of them on its own.
  have hapart : (∀ other ∈ before, AreApart other e) ↔
      (∀ other ∈ before, other.code ≠ e.code)
        ∧ ∀ other ∈ before, other.identifier ≠ e.identifier :=
    forall₂_and
  rw [hapart, ← hcode, ← hname]
  unfold faultAfter?
  cases hidentifier : isEntryIdentifier e.identifier with
  | false => simp
  | true =>
    simp only [Bool.not_true, Bool.false_eq_true, if_false, true_and]
    split
    · next hfound => simp [hfound]
    · next hfound =>
      split
      · next hother => simp [hother]
      · next hother => simp [hfound, hother]

/-- No fault after earlier entries means proper identifiers, apart from the earlier ones and from
each other. -/
theorem firstFaultAfter?_eq_none_iff (before entries : List Entry) :
    firstFaultAfter? (before.map fun other => (other.identifier, other)) entries = none ↔
      (∀ e ∈ entries, isEntryIdentifier e.identifier = true ∧ ∀ other ∈ before, AreApart other e)
        ∧ entries.Pairwise AreApart := by
  induction entries generalizing before with
  | nil => simp [firstFaultAfter?]
  | cons e rest ih =>
    have hfirst := faultAfter?_eq_none_iff (e := e) before
    have hrest := ih (e :: before)
    simp only [List.map_cons] at hrest
    simp only [firstFaultAfter?]
    cases hfault : faultAfter? (before.map fun other => (other.identifier, other))
      e.identifier e with
    | some fault =>
      have hbroken := mt hfirst.2 (by simp [hfault])
      simp [hbroken]
    | none =>
      -- The entries after `e` are checked against those before it and against `e` itself.
      rcases hfirst.1 hfault with ⟨hidentifier, hbefore⟩
      rw [hrest]
      simp only [List.forall_mem_cons, List.pairwise_cons, hidentifier, true_and]
      constructor
      · rintro ⟨hlater, hpairs⟩
        exact ⟨⟨hbefore, fun other hother => ⟨(hlater other hother).1, (hlater other hother).2.2⟩⟩,
          fun other hother => (hlater other hother).2.1, hpairs⟩
      · rintro ⟨⟨-, hlater⟩, hapart, hpairs⟩
        exact ⟨fun other hother =>
          ⟨(hlater other hother).1, hapart other hother, (hlater other hother).2⟩, hpairs⟩

/-- The check finds no fault exactly in the lists that can be rendered. -/
theorem firstFault?_eq_none_iff : firstFault? entries = none ↔ AreRenderable entries := by
  have hcheck := firstFaultAfter?_eq_none_iff [] entries
  -- To differ pairwise in both is to have no duplicates in either.
  have hpairs : entries.Pairwise AreApart ↔
      (entries.map code).Nodup ∧ (entries.map identifier).Nodup := by
    rw [List.Nodup, List.Nodup, List.pairwise_map, List.pairwise_map]
    exact List.pairwise_and_iff
  rw [hpairs] at hcheck
  simp only [List.map_nil, List.not_mem_nil, false_imp_iff, implies_true, and_true] at hcheck
  rw [firstFault?, hcheck]
  constructor
  · rintro ⟨hidentifier, hcode, hname⟩
    exact ⟨hidentifier, hcode, hname⟩
  · rintro ⟨hidentifier, hcode, hname⟩
    exact ⟨hidentifier, hcode, hname⟩

/-- The entries of a list that can be rendered have identifiers of the language. -/
theorem AreRenderable.isIdentifier (h : AreRenderable entries) (he : e ∈ entries) :
    Go.isIdentifier e.identifier = true := by
  have hidentifier := h.isEntryIdentifier e he
  simp only [Entry.isEntryIdentifier, Bool.and_eq_true] at hidentifier
  exact hidentifier.1

/-! ## What the check looks at -/

/-- What the check sees of an entry: its code and its name. -/
def label (e : Entry) : Entry :=
  internal e.code e.name []

/-- The check of one entry reads names and codes only. -/
theorem faultAfter?_map_label (earlier : List (Text × Entry)) (identifier : Text) (e : Entry) :
    faultAfter? (earlier.map (Prod.map id label)) identifier e.label
      = faultAfter? earlier identifier e := by
  have hcode : (earlier.map (Prod.map id label)).find? (fun other => other.2.code = e.code)
      = (earlier.find? fun other => other.2.code = e.code).map (Prod.map id label) :=
    List.find?_map
  have hname : (earlier.map (Prod.map id label)).find? (fun other => other.1 = identifier)
      = (earlier.find? fun other => other.1 = identifier).map (Prod.map id label) :=
    List.find?_map
  -- A label has the name and the code of its entry, so it is checked like the entry itself.
  change faultAfter? (earlier.map (Prod.map id label)) identifier e = _
  unfold faultAfter?
  rw [hcode, hname]
  cases earlier.find? fun other => other.2.code = e.code with
  | some other => rfl
  | none =>
    cases earlier.find? fun other => other.1 = identifier with
    | some other => rfl
    | none => rfl

theorem firstFaultAfter?_map_label (earlier : List (Text × Entry)) (entries : List Entry) :
    firstFaultAfter? (earlier.map (Prod.map id label)) (entries.map label)
      = firstFaultAfter? earlier entries := by
  induction entries generalizing earlier with
  | nil => rfl
  | cons e rest ih =>
    have hfirst := faultAfter?_map_label earlier e.identifier e
    have hrest := ih ((e.identifier, e) :: earlier)
    -- The label of an entry has the identifier of the entry.
    have hidentifier : e.label.identifier = e.identifier := rfl
    simp only [List.map_cons, firstFaultAfter?, hidentifier, hfirst]
    cases faultAfter? earlier e.identifier e with
    | some fault => rfl
    | none => exact hrest

/-- The check of a list reads names and codes only. -/
theorem firstFault?_map_label (entries : List Entry) :
    firstFault? (entries.map label) = firstFault? entries :=
  firstFaultAfter?_map_label [] entries

end Entry

end ErrorCatalog
