import ErrorCatalog.Text.Grapheme
/-!
# What joins within a cluster

Behind the first character of a cluster stands only what joins the part of the cluster before it.
Two plain characters, of which no rule tells anything, do not join. So a cluster of plain characters
is a single one.
-/

namespace ErrorCatalog

namespace Text

variable {last next : Char} {before rest cluster t : Text}

/-! ## Joined characters -/

/-- The reversed text is a single character, or a character that joins the ones before it. -/
inductive IsJoined : Text → Prop where
  | single (c : Char) : IsJoined [c]
  | join {last next : Char} {before : Text} :
      IsJoined (last :: before) → joins last before next = true → IsJoined (next :: last :: before)

theorem isJoined_of_mem_clustersAfter (hstart : IsJoined (last :: before))
    (h : cluster ∈ clustersAfter last before rest) : IsJoined cluster.reverse := by
  -- The first cluster is still open and grows with the text, so its start varies.
  induction rest generalizing last before with
  | nil =>
    rw [clustersAfter, List.mem_singleton] at h
    rwa [h, List.reverse_reverse]
  | cons next rest ih =>
    rw [clustersAfter] at h
    split at h
    · next hjoins => exact ih (.join hstart hjoins) h
    · rcases List.mem_cons.1 h with rfl | hbehind
      · rwa [List.reverse_reverse]
      · exact ih (.single next) hbehind

/-- The characters of a cluster join, each with those before it. -/
theorem isJoined_of_mem_clusters (h : cluster ∈ clusters t) : IsJoined cluster.reverse := by
  cases t with
  | nil => cases h
  | cons c rest => exact isJoined_of_mem_clustersAfter (.single c) h

/-! ## Plain characters -/

/-- A character that is of no particular break class, forms no conjuncts and is no pictograph. -/
structure IsPlain (c : Char) : Prop where
  breakClass_eq : breakClass c = .other
  not_conjunctConsonant : isConjunctConsonant c = false
  not_pictograph : isPictograph c = false

instance (c : Char) : Decidable (IsPlain c) :=
  decidable_of_iff
    (breakClass c = .other ∧ isConjunctConsonant c = false ∧ isPictograph c = false)
    ⟨fun h => ⟨h.1, h.2.1, h.2.2⟩, fun h => ⟨h.1, h.2, h.3⟩⟩

/-- Two plain characters do not join. -/
theorem joins_of_isPlain (hlast : IsPlain last) (hnext : IsPlain next) (before : Text) :
    joins last before next = false := by
  simp [joins, hlast.breakClass_eq, hnext.breakClass_eq, hnext.not_conjunctConsonant,
    hnext.not_pictograph]

/-- A cluster of plain characters is one character. -/
theorem IsJoined.exists_eq_singleton (h : IsJoined t) (hplain : ∀ c ∈ t, IsPlain c) :
    ∃ c, t = [c] := by
  cases h with
  | single c => exact ⟨c, rfl⟩
  | @join last next before hbefore hjoins =>
    have hnext := hplain next (by simp)
    have hlast := hplain last (by simp)
    rw [joins_of_isPlain hlast hnext before] at hjoins
    cases hjoins

/-- Plain characters make no cluster of several. -/
theorem exists_eq_singleton_of_isPlain (h : cluster ∈ clusters t)
    (hplain : ∀ c ∈ cluster, IsPlain c) : ∃ c, cluster = [c] := by
  have hplain' : ∀ c ∈ cluster.reverse, IsPlain c := by simpa using hplain
  rcases (isJoined_of_mem_clusters h).exists_eq_singleton hplain' with ⟨c, hc⟩
  exact ⟨c, by simpa using congrArg List.reverse hc⟩

end Text

end ErrorCatalog
