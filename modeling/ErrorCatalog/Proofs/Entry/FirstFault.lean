import ErrorCatalog.Proofs.Entry.Check
import Mathlib.Data.Nat.Find
import Mathlib.Order.Bounds.Basic
/-!
# Which fault is reported

The check of entries reports the fault of one entry: the first one with which the entries up to
there are no longer renderable. `Entry.Blames` says what is reported of it. Since the entries before
it are renderable, at most one of them has its code and at most one its identifier, so there is
never a choice of whom to name beside it.
-/

namespace ErrorCatalog

namespace Entry

variable {e other : Entry} {earlier before entries : List Entry} {fault : RenderFault}

/-! ## The only match -/

section OnlyMatch

variable {α : Type} {key : Entry → α} {value : α}

/-- The entry stands among the earlier ones and has the value as its key, and the place where it
stands is the only one with this key. -/
def IsOnlyMatch (key : Entry → α) (value : α) (earlier : List Entry) (other : Entry) : Prop :=
  ∃ place : Nat, earlier[place]? = some other ∧ key other = value
    ∧ ∀ (another : Nat) (third : Entry), earlier[another]? = some third → key third = value →
      another = place

/-- Where no key occurs twice, an element is the only one with its key. -/
theorem isOnlyMatch_of_mem (hnodup : (earlier.map key).Nodup) (hmem : other ∈ earlier) :
    IsOnlyMatch key (key other) earlier other := by
  rcases List.mem_iff_getElem?.1 hmem with ⟨place, hplace⟩
  refine ⟨place, hplace, rfl, ?_⟩
  intro another third hthird hkey
  -- Both places have the same key, and no key is there twice.
  have hsame : (earlier.map key)[place]? = (earlier.map key)[another]? := by
    rw [List.getElem?_map, List.getElem?_map, hplace, hthird, Option.map_some, Option.map_some,
      hkey]
  have hlt : place < (earlier.map key).length := by
    rcases List.getElem?_eq_some_iff.1 hplace with ⟨hlt, -⟩
    simpa using hlt
  exact ((List.getElem?_inj hlt hnodup).1 hsame).symm

theorem IsOnlyMatch.mem (h : IsOnlyMatch key value earlier other) : other ∈ earlier := by
  rcases h with ⟨place, hplace, -⟩
  exact List.mem_of_getElem? hplace

theorem IsOnlyMatch.key_eq (h : IsOnlyMatch key value earlier other) : key other = value := by
  rcases h with ⟨-, -, hkey, -⟩
  exact hkey

/-- The only match is unique. -/
theorem IsOnlyMatch.unique {third : Entry} (h : IsOnlyMatch key value earlier other)
    (h' : IsOnlyMatch key value earlier third) : other = third := by
  rcases h with ⟨place, hplace, -, honly⟩
  rcases h' with ⟨another, hanother, hkey, -⟩
  have hsame : another = place := honly another third hanother hkey
  rw [hsame, hplace] at hanother
  exact Option.some.inj hanother

end OnlyMatch

/-! ## What is reported of an entry -/

/-- What is reported of an entry that is at fault with those before it: the first of the three rules
that it breaks. -/
inductive Blames (earlier : List Entry) (e : Entry) : RenderFault → Prop where
  | badName (hname : isEntryIdentifier e.identifier = false) :
      Blames earlier e (.badName e.name)
  | sharedCode {other : Entry} (hname : isEntryIdentifier e.identifier = true)
      (hother : IsOnlyMatch code e.code earlier other) :
      Blames earlier e (.sharedCode e.code other.name e.name)
  | sharedIdentifier {other : Entry} (hname : isEntryIdentifier e.identifier = true)
      (hcode : ∀ third ∈ earlier, third.code ≠ e.code)
      (hother : IsOnlyMatch identifier e.identifier earlier other) :
      Blames earlier e (.sharedIdentifier other.name e.name e.identifier)

/-- Only one fault can be reported of an entry: the cases exclude each other, and each names the
only match. -/
theorem Blames.unique {fault' : RenderFault} (h : Blames earlier e fault)
    (h' : Blames earlier e fault') : fault = fault' := by
  -- A name is bad or not, and a shared code goes before a shared identifier: two reasons exclude
  -- each other.
  cases h with
  | badName hname =>
    cases h' with
    | badName => rfl
    | sharedCode hname' => exact absurd (hname.symm.trans hname') (by decide)
    | sharedIdentifier hname' => exact absurd (hname.symm.trans hname') (by decide)
  | sharedCode hname hother =>
    cases h' with
    | badName hname' => exact absurd (hname'.symm.trans hname) (by decide)
    | sharedCode _ hother' => rw [hother.unique hother']
    | sharedIdentifier _ hcode' => exact absurd hother.key_eq (hcode' _ hother.mem)
  | sharedIdentifier hname hcode hother =>
    cases h' with
    | badName hname' => exact absurd (hname'.symm.trans hname) (by decide)
    | sharedCode _ hother' => exact absurd hother'.key_eq (hcode _ hother'.mem)
    | sharedIdentifier _ _ hother' => rw [hother.unique hother']

/-- A bad name is blamed on the entry itself. -/
theorem Blames.of_badName {name : Text} (h : Blames earlier e (.badName name)) :
    e.name = name ∧ isEntryIdentifier e.identifier = false := by
  cases h with
  | badName hname => exact ⟨rfl, hname⟩

/-- The entries that the check has seen, the latest first, each with its identifier. -/
def seen (earlier : List Entry) : List (Text × Entry) :=
  earlier.reverse.map fun other => (other.identifier, other)

/-- An entry passes after the earlier ones if its identifier is proper and it is apart from all of
them. -/
theorem faultAfter?_seen_eq_none_iff :
    faultAfter? (seen earlier) e.identifier e = none ↔
      isEntryIdentifier e.identifier = true ∧ ∀ other ∈ earlier, AreApart other e := by
  rw [seen, faultAfter?_eq_none_iff]
  simp

/-- A search among the entries seen finds one of them, under its own identifier. -/
theorem mem_of_find?_seen {p : Text × Entry → Bool} {found : Text × Entry}
    (h : (seen earlier).find? p = some found) :
    found.2 ∈ earlier ∧ found.1 = found.2.identifier ∧ p found = true := by
  have hmem := List.mem_of_find?_eq_some h
  simp only [seen, List.mem_map, List.mem_reverse] at hmem
  rcases hmem with ⟨other, hother, rfl⟩
  exact ⟨hother, rfl, List.find?_some h⟩

/-- Behind renderable entries the check reports of an entry what it is to be blamed for. -/
theorem blames_of_faultAfter? (hearlier : AreRenderable earlier)
    (h : faultAfter? (seen earlier) e.identifier e = some fault) : Blames earlier e fault := by
  unfold faultAfter? at h
  cases hname : isEntryIdentifier e.identifier with
  | false =>
    simp only [hname, Bool.not_false, if_true, Option.some.injEq] at h
    subst h
    exact .badName hname
  | true =>
    simp only [hname, Bool.not_true, Bool.false_eq_true, if_false] at h
    split at h
    · next found other hfound =>
      rcases mem_of_find?_seen hfound with ⟨hmem, -, hkey⟩
      have hcode : other.code = e.code := of_decide_eq_true hkey
      cases h
      -- The earlier entries have distinct codes, so the one found is the only one.
      have hother := isOnlyMatch_of_mem hearlier.nodup_code hmem
      exact .sharedCode hname (hcode ▸ hother)
    · next hnone =>
      split at h
      · next found other hfound =>
        rcases mem_of_find?_seen hfound with ⟨hmem, hidentifier, hkey⟩
        have hsame : other.identifier = e.identifier :=
          hidentifier.symm.trans (of_decide_eq_true hkey)
        have hcode : ∀ third ∈ earlier, third.code ≠ e.code := by
          intro third hthird heq
          have hseen : (third.identifier, third) ∈ seen earlier := by
            simpa [seen] using hthird
          simpa [heq] using List.find?_eq_none.1 hnone _ hseen
        cases h
        have hother := isOnlyMatch_of_mem hearlier.nodup_identifier hmem
        exact .sharedIdentifier hname hcode (hsame ▸ hother)
      · cases h

/-- An entry that can be blamed does not pass the check. -/
theorem Blames.exists_faultAfter? (h : Blames earlier e fault) :
    ∃ reported, faultAfter? (seen earlier) e.identifier e = some reported := by
  apply Option.ne_none_iff_exists'.1
  intro hnone
  rcases faultAfter?_seen_eq_none_iff.1 hnone with ⟨hsound, hapart⟩
  cases h with
  | badName hname => exact absurd (hname.symm.trans hsound) (by decide)
  | sharedCode _ hother => exact (hapart _ hother.mem).1 hother.key_eq
  | sharedIdentifier _ _ hother => exact (hapart _ hother.mem).2 hother.key_eq

/-! ## The first entry at fault -/

/-- The check of two stretches is the check of the first and, after it, of the second. -/
theorem firstFaultAfter?_append (earlier : List (Text × Entry)) (front rest : List Entry) :
    firstFaultAfter? earlier (front ++ rest)
      = (firstFaultAfter? earlier front).or (firstFaultAfter? (seen front ++ earlier) rest) := by
  induction front generalizing earlier with
  | nil => rfl
  | cons first front ih =>
    simp only [List.cons_append, firstFaultAfter?]
    cases faultAfter? earlier first.identifier first with
    | some fault => rfl
    | none => simp [ih, seen]

/-- Behind entries without fault the check goes on with these as seen. -/
theorem firstFault?_append (hbefore : AreRenderable before) (rest : List Entry) :
    firstFault? (before ++ rest) = firstFaultAfter? (seen before) rest := by
  have hnone : firstFaultAfter? [] before = none := firstFault?_eq_none_iff.2 hbefore
  simp [firstFault?, firstFaultAfter?_append, hnone]

/-- The first entry to be blamed decides the fault, whatever follows it. -/
theorem firstFault?_of_blames (hbefore : AreRenderable before) (h : Blames before e fault)
    (rest : List Entry) : firstFault? (before ++ e :: rest) = some fault := by
  rcases h.exists_faultAfter? with ⟨reported, hreported⟩
  have hsame : reported = fault := (blames_of_faultAfter? hbefore hreported).unique h
  rw [firstFault?_append hbefore]
  simp only [firstFaultAfter?, hreported, hsame]

/-- An entry that spoils a list is to be blamed for something. -/
theorem exists_blames (hbefore : AreRenderable before) (h : ¬ AreRenderable (before ++ [e])) :
    ∃ fault, Blames before e fault := by
  cases hfault : faultAfter? (seen before) e.identifier e with
  | some fault => exact ⟨fault, blames_of_faultAfter? hbefore hfault⟩
  | none =>
    refine absurd (firstFault?_eq_none_iff.1 ?_) h
    rw [firstFault?_append hbefore]
    simp only [firstFaultAfter?, hfault]

theorem areRenderable_nil : AreRenderable [] :=
  ⟨by simp, by simp, by simp⟩

/-- The order of the entries does not matter. -/
theorem AreRenderable.of_perm {others : List Entry} (h : AreRenderable entries)
    (hperm : others.Perm entries) : AreRenderable others where
  isEntryIdentifier e he := h.isEntryIdentifier e (hperm.mem_iff.1 he)
  nodup_code := (hperm.map code).nodup_iff.2 h.nodup_code
  nodup_identifier := (hperm.map identifier).nodup_iff.2 h.nodup_identifier

/-- `i` is the least index up to which the entries, the one at `i` included, are not renderable. -/
def IsFirstBreak (entries : List Entry) (i : Nat) : Prop :=
  IsLeast {n : Nat | ¬ AreRenderable (entries.take (n + 1))} i

/-- What stands before the first break can be rendered. -/
theorem IsFirstBreak.areRenderable_take {i : Nat} (h : IsFirstBreak entries i) :
    AreRenderable (entries.take i) := by
  cases i with
  | zero => exact areRenderable_nil
  | succ k =>
    by_contra hbroken
    exact Nat.not_succ_le_self k (h.2 hbroken)

/-- A list that cannot be rendered has a first break. -/
theorem exists_isFirstBreak (h : ¬ AreRenderable entries) : ∃ i, IsFirstBreak entries i := by
  classical
  have hbreaks : ∃ n, ¬ AreRenderable (entries.take (n + 1)) := by
    refine ⟨entries.length, ?_⟩
    rwa [List.take_of_length_le (Nat.le_succ entries.length)]
  exact ⟨Nat.find hbreaks, Nat.find_spec hbreaks, fun n hn => Nat.find_min' hbreaks hn⟩

theorem IsFirstBreak.lt_length {i : Nat} (h : IsFirstBreak entries i) : i < entries.length := by
  by_contra hlong
  -- Behind the last entry there is nothing that could break a rule.
  have hwhole : entries.take (i + 1) = entries.take i := by
    rw [List.take_of_length_le (by omega), List.take_of_length_le (by omega)]
  exact h.1 (hwhole ▸ h.areRenderable_take)

/-- The check reports what the entry at the first break is blamed for. -/
theorem IsFirstBreak.firstFault?_eq {i : Nat} (h : IsFirstBreak entries i)
    (he : entries[i]? = some e) (hfault : Blames (entries.take i) e fault) :
    firstFault? entries = some fault := by
  rcases List.getElem?_eq_some_iff.1 he with ⟨hlt, rfl⟩
  have hsplit : entries.take i ++ entries[i] :: entries.drop (i + 1) = entries := by
    rw [List.getElem_cons_drop, List.take_append_drop]
  rw [← firstFault?_of_blames h.areRenderable_take hfault (entries.drop (i + 1)), hsplit]

/-- A fault is reported exactly when the entry at the first break is to be blamed for it. -/
theorem firstFault?_eq_some_iff :
    firstFault? entries = some fault ↔
      ∃ i e, IsFirstBreak entries i ∧ entries[i]? = some e ∧ Blames (entries.take i) e fault := by
  constructor
  · intro hfault
    have hbroken : ¬ AreRenderable entries := by
      intro hrenderable
      rw [firstFault?_eq_none_iff.2 hrenderable] at hfault
      cases hfault
    rcases exists_isFirstBreak hbroken with ⟨i, hi⟩
    have hlt := hi.lt_length
    have he : entries[i]? = some entries[i] := List.getElem?_eq_getElem hlt
    have hnext : ¬ AreRenderable (entries.take i ++ [entries[i]]) := by
      rw [List.take_append_getElem hlt]
      exact hi.1
    rcases exists_blames hi.areRenderable_take hnext with ⟨reported, hreported⟩
    -- What the entry is blamed for is what the check found.
    have hsame := (hi.firstFault?_eq he hreported).symm.trans hfault
    rw [Option.some.inj hsame] at hreported
    exact ⟨i, entries[i], hi, he, hreported⟩
  · rintro ⟨i, e, hi, he, hblames⟩
    exact hi.firstFault?_eq he hblames

/-- No fault is reported exactly when the entries are renderable, in whatever order they come. A
fault that is reported is that of the first entry with which they are not. -/
theorem firstFault?_blames (entries : List Entry) :
    (firstFault? entries = none ↔ AreRenderable entries)
    ∧ (∀ others : List Entry, others.Perm entries →
        (firstFault? others = none ↔ firstFault? entries = none))
    ∧ ∀ fault, firstFault? entries = some fault ↔
        ∃ i e, IsFirstBreak entries i ∧ entries[i]? = some e
          ∧ Blames (entries.take i) e fault := by
  refine ⟨firstFault?_eq_none_iff, ?_, fun fault => firstFault?_eq_some_iff⟩
  intro others hperm
  rw [firstFault?_eq_none_iff, firstFault?_eq_none_iff]
  exact ⟨fun h => h.of_perm hperm.symm, fun h => h.of_perm hperm⟩

/-- Entries of which the third shares its code and its identifier with the first, and the last has
no identifier of its own. -/
def twins : List Entry :=
  [.internal 1 "A_1" [], .internal 2 "B" [], .internal 1 "a1" [], .internal 2 "_" []]

theorem exists_blames_of_twins :
    ∃ i e, IsFirstBreak twins i ∧ twins[i]? = some e
      ∧ Blames (twins.take i) e (.sharedCode 1 "A_1" "a1") := by
  have hfault : firstFault? twins = some (.sharedCode 1 "A_1" "a1") := by
    decide +kernel
  exact ((firstFault?_blames twins).2.2 _).1 hfault

end Entry

end ErrorCatalog
