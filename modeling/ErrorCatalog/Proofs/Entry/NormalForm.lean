import ErrorCatalog.Proofs.Entry.FirstFault
import ErrorCatalog.Proofs.Text.AsciiCase
import ErrorCatalog.Proofs.Text.Lines
import ErrorCatalog.Proofs.Text.Scan
/-!
# Which names share an identifier

For names of word characters there is a normal form: the segments between underscores in lower case,
where a segment that starts with a digit is part of the segment before it. Two names have the same
identifier exactly when their normal forms are the same.

The identifier is the segments of the normal form, the first character of each in upper case, run
together. They can be told apart again, since only the first of them may start with a digit: every
segment behind it starts with a capital letter, and no other capital letters occur.
-/

namespace ErrorCatalog

namespace Entry

open Text (Stops isSmall)

variable {name segment : Text} {segments others : List Text}

/-! ## Normal forms -/

def lowerSegments (name : Text) : List Text :=
  ((Text.pieces '_' name).filter fun piece => !piece.isEmpty).map (List.map Char.toLower)

def isDigitLed (segment : Text) : Bool :=
  segment.head?.any Char.isDigit

/-- The segments, each that starts with a digit put behind the one before it, if there is one. -/
def joinDigitLed : List Text → List Text
  | [] => []
  | segment :: rest =>
      match joinDigitLed rest with
      | [] => [segment]
      | next :: behind =>
          if isDigitLed next then (segment ++ next) :: behind else segment :: next :: behind

/-- What the identifier of a name depends on, if the name is made of word characters. -/
def normalForm (name : Text) : List Text :=
  joinDigitLed (lowerSegments name)

/-- A non-empty run of small letters and digits. -/
structure IsSegment (segment : Text) : Prop where
  ne_nil : segment ≠ []
  isSmall : ∀ c ∈ segment, isSmall c = true

/-- Segments of which only the first may start with a digit. -/
structure IsNormal (segments : List Text) : Prop where
  isSegment : ∀ segment ∈ segments, IsSegment segment
  isDigitLed_tail : ∀ segment ∈ segments.tail, isDigitLed segment = false

/-- Between the underscores of a name stand letters and digits only. -/
theorem isAlphanum_of_mem_pieces (hname : ∀ c ∈ name, Go.isWordChar c = true) :
    ∀ piece ∈ Text.pieces '_' name, ∀ c ∈ piece, c.isAlphanum = true := by
  intro piece hpiece c hc
  rcases Text.exists_mem_pieces_iff.1 ⟨piece, hpiece, hc⟩ with ⟨hcname, hunderscore⟩
  simpa [Go.isWordChar, hunderscore] using hname c hcname

theorem isSegment_map_toLower (hne : name ≠ []) (h : ∀ c ∈ name, c.isAlphanum = true) :
    IsSegment (name.map Char.toLower) where
  ne_nil := by simpa using hne
  isSmall := by
    intro d hd
    rcases List.mem_map.1 hd with ⟨c, hc, rfl⟩
    exact Text.isSmall_toLower (h c hc)

/-- The lower-case segments of a name are proper segments. -/
theorem isSegment_of_mem_lowerSegments (hname : ∀ c ∈ name, Go.isWordChar c = true) :
    ∀ segment ∈ lowerSegments name, IsSegment segment := by
  intro segment hsegment
  rcases List.mem_map.1 hsegment with ⟨piece, hpiece, rfl⟩
  rcases List.mem_filter.1 hpiece with ⟨hmem, hfilled⟩
  exact isSegment_map_toLower (by simpa using hfilled) (isAlphanum_of_mem_pieces hname piece hmem)

theorem IsSegment.append {next : Text} (h : IsSegment segment) (hnext : IsSegment next) :
    IsSegment (segment ++ next) where
  ne_nil := by simp [h.ne_nil]
  isSmall := List.forall_mem_append.2 ⟨h.isSmall, hnext.isSmall⟩

/-- Segments that begin with a digit join the one before them, which leaves a normal form. -/
theorem isNormal_joinDigitLed (h : ∀ segment ∈ segments, IsSegment segment) :
    IsNormal (joinDigitLed segments) := by
  induction segments with
  | nil => exact ⟨by simp [joinDigitLed], by simp [joinDigitLed]⟩
  | cons segment rest ih =>
    rcases List.forall_mem_cons.1 h with ⟨hsegment, hrest⟩
    have hjoined := ih hrest
    unfold joinDigitLed
    split
    · exact ⟨by simpa using hsegment, by simp⟩
    · next next behind heq =>
      rw [heq] at hjoined
      rcases List.forall_mem_cons.1 hjoined.isSegment with ⟨hnext, hbehind⟩
      split_ifs with hdigit
      · exact ⟨List.forall_mem_cons.2 ⟨hsegment.append hnext, hbehind⟩, hjoined.isDigitLed_tail⟩
      · -- The next segment was the first of the rest and is now behind another one.
        refine ⟨List.forall_mem_cons.2 ⟨hsegment, hjoined.isSegment⟩, ?_⟩
        exact List.forall_mem_cons.2 ⟨by simpa using hdigit, hjoined.isDigitLed_tail⟩

/-- The normal form of a name is normal. -/
theorem isNormal_normalForm (hname : ∀ c ∈ name, Go.isWordChar c = true) :
    IsNormal (normalForm name) :=
  isNormal_joinDigitLed (isSegment_of_mem_lowerSegments hname)

/-! ## Identifiers out of normal forms -/

def upperFirst : Text → Text
  | [] => []
  | first :: rest => first.toUpper :: rest

/-- On letters and digits, capitalising is lowering all and raising the first. -/
theorem capitalise_eq_upperFirst (h : ∀ c ∈ name, c.isAlphanum = true) :
    capitalise name = upperFirst (name.map Char.toLower) := by
  -- On the first 128 characters the general tables of cases reduce to the simple ones.
  have hascii : ∀ c : Char, c.isAlphanum = true → c.toNat < 0x80 := by
    intro c hc
    exact Text.toNat_lt_of_isWordChar (by simp [Go.isWordChar, hc])
  have hlower : Text.lower name = name.map Char.toLower :=
    Text.lower_of_ascii fun c hc => hascii c (h c hc)
  unfold capitalise
  rw [hlower]
  cases name with
  | nil => rfl
  | cons first rest =>
    have hfirst := Text.isAlphanum_of_isSmall (Text.isSmall_toLower (h first List.mem_cons_self))
    simp [upperFirst, Text.upperChar_of_ascii (hascii _ hfirst)]

/-- Empty pieces leave no trace in what is capitalised. -/
theorem flatMap_capitalise {pieces : List Text}
    (h : ∀ piece ∈ pieces, ∀ c ∈ piece, c.isAlphanum = true) :
    pieces.flatMap capitalise
      = ((pieces.filter fun piece => !piece.isEmpty).map (List.map Char.toLower)).flatMap
          upperFirst := by
  induction pieces with
  | nil => rfl
  | cons piece rest ih =>
    rcases List.forall_mem_cons.1 h with ⟨hpiece, hrest⟩
    rw [List.flatMap_cons, ih hrest, capitalise_eq_upperFirst hpiece]
    cases piece with
    | nil => rfl
    | cons first letters => rfl

/-- Raising the first character happens in the first segment. -/
theorem upperFirst_append (hne : segment ≠ []) (next : Text) :
    upperFirst (segment ++ next) = upperFirst segment ++ next := by
  cases segment with
  | nil => exact absurd rfl hne
  | cons first rest => rfl

/-- A digit is its own capital. -/
theorem upperFirst_of_isDigitLed (h : isDigitLed segment = true) :
    upperFirst segment = segment := by
  cases segment with
  | nil => rfl
  | cons first rest =>
    have hdigit : first.isDigit = true := by simpa [isDigitLed] using h
    have hupper : first.toUpper = first :=
      Char.toUpper_eq_of_not_isLower (by simp [Text.isLower_of_isDigit hdigit])
    rw [upperFirst, hupper]

/-- Joining segments makes no difference to what is capitalised. -/
theorem flatMap_joinDigitLed (h : ∀ segment ∈ segments, IsSegment segment) :
    (joinDigitLed segments).flatMap upperFirst = segments.flatMap upperFirst := by
  induction segments with
  | nil => rfl
  | cons segment rest ih =>
    rcases List.forall_mem_cons.1 h with ⟨hsegment, hrest⟩
    have hjoined := ih hrest
    rw [List.flatMap_cons, ← hjoined, joinDigitLed]
    cases joinDigitLed rest with
    | nil => simp
    | cons next behind =>
      -- Raising changes no digit, so a segment that begins with one may be joined to the one
      -- before.
      cases hdigit : isDigitLed next with
      | false => simp [hdigit]
      | true => simp [hdigit, upperFirst_append hsegment.ne_nil, upperFirst_of_isDigitLed hdigit]

theorem pascalCase_eq_flatMap_normalForm (hname : ∀ c ∈ name, Go.isWordChar c = true) :
    pascalCase name = (normalForm name).flatMap upperFirst := by
  calc
    pascalCase name = (lowerSegments name).flatMap upperFirst :=
      flatMap_capitalise (isAlphanum_of_mem_pieces hname)
    _ = (normalForm name).flatMap upperFirst :=
      (flatMap_joinDigitLed (isSegment_of_mem_lowerSegments hname)).symm

/-! ## Normal forms out of identifiers -/

theorem IsSegment.upperFirst_ne_nil (h : IsSegment segment) : upperFirst segment ≠ [] := by
  cases segment with
  | nil => exact absurd rfl h.ne_nil
  | cons first rest => exact List.cons_ne_nil _ _

theorem IsNormal.tail (h : IsNormal (segment :: segments)) : IsNormal segments where
  isSegment other hother := h.isSegment other (List.mem_cons_of_mem _ hother)
  isDigitLed_tail other hother := h.isDigitLed_tail other (List.mem_of_mem_tail hother)

/-- Behind the first segment the identifier goes on with a capital letter or not at all. -/
theorem IsNormal.stops_tail (h : IsNormal (segment :: segments)) :
    Stops (fun c => !c.isUpper) (segments.flatMap upperFirst) := by
  cases segments with
  | nil => exact Text.stops_nil
  | cons next behind =>
    have hnext := h.isSegment next (by simp)
    have hletter : isDigitLed next = false := h.isDigitLed_tail next (by simp)
    cases next with
    | nil => exact absurd rfl hnext.ne_nil
    | cons first rest =>
      have hdigit : first.isDigit = false := by simpa [isDigitLed] using hletter
      have hlower : first.isLower = true := by
        simpa [isSmall, hdigit] using hnext.isSmall first (by simp)
      simp [upperFirst, Char.isAlpha, hlower]

/-- The first segments are the same, and so is what stands behind them: the first segment goes on
up to the next capital letter. -/
theorem IsNormal.cons_inj {other : Text} (h : IsNormal (segment :: segments))
    (h' : IsNormal (other :: others))
    (heq : upperFirst segment ++ segments.flatMap upperFirst
      = upperFirst other ++ others.flatMap upperFirst) :
    segment = other ∧ segments.flatMap upperFirst = others.flatMap upperFirst := by
  have hsegment := h.isSegment segment (by simp)
  have hother := h'.isSegment other (by simp)
  cases segment with
  | nil => exact absurd rfl hsegment.ne_nil
  | cons first letters =>
    cases other with
    | nil => exact absurd rfl hother.ne_nil
    | cons first' letters' =>
      simp only [upperFirst, List.cons_append, List.cons.injEq] at heq
      rcases heq with ⟨hfirst, hrest⟩
      rcases List.forall_mem_cons.1 hsegment.isSmall with ⟨hsmall, hletters⟩
      rcases List.forall_mem_cons.1 hother.isSmall with ⟨hsmall', hletters'⟩
      -- A segment reaches up to the next capital: behind its first letter it has none.
      have hrun : ∀ c ∈ letters, (!c.isUpper) = true := by
        intro c hc
        simp [Text.isUpper_of_isSmall (hletters c hc)]
      have hrun' : ∀ c ∈ letters', (!c.isUpper) = true := by
        intro c hc
        simp [Text.isUpper_of_isSmall (hletters' c hc)]
      rcases Text.append_inj_of_stops hrun hrun' h.stops_tail h'.stops_tail hrest with
        ⟨hsame, hbehind⟩
      rw [Text.toUpper_inj_of_isSmall hsmall hsmall' hfirst, hsame]
      exact ⟨rfl, hbehind⟩

/-- Normal forms that give the same identifier are the same. -/
theorem IsNormal.eq_of_flatMap_eq (h : IsNormal segments) (h' : IsNormal others)
    (heq : segments.flatMap upperFirst = others.flatMap upperFirst) : segments = others := by
  induction segments generalizing others with
  | nil =>
    cases others with
    | nil => rfl
    | cons other behind =>
      have hother := (h'.isSegment other (by simp)).upperFirst_ne_nil
      simp [hother] at heq
  | cons segment rest ih =>
    cases others with
    | nil =>
      have hsegment := (h.isSegment segment (by simp)).upperFirst_ne_nil
      simp [hsegment] at heq
    | cons other behind =>
      -- The first segments are equal, and the rest is left to the induction.
      rcases h.cons_inj h' heq with ⟨hsame, hbehind⟩
      rw [hsame, ih h.tail h'.tail hbehind]

/-- Pascal case joins the segments of the normal form, and it can be taken apart again. -/
theorem pascalCase_eq_iff {other : Text} (hname : ∀ c ∈ name, Go.isWordChar c = true)
    (hother : ∀ c ∈ other, Go.isWordChar c = true) :
    pascalCase name = pascalCase other ↔ normalForm name = normalForm other := by
  rw [pascalCase_eq_flatMap_normalForm hname, pascalCase_eq_flatMap_normalForm hother]
  constructor
  · intro heq
    exact (isNormal_normalForm hname).eq_of_flatMap_eq (isNormal_normalForm hother) heq
  · intro heq
    rw [heq]

/-! ## Names that form an identifier -/

/-- Pascal case has letters and digits only. -/
theorem isAlphanum_of_mem_pascalCase (hname : ∀ c ∈ name, Go.isWordChar c = true) :
    ∀ c ∈ pascalCase name, c.isAlphanum = true := by
  intro c hc
  rw [pascalCase_eq_flatMap_normalForm hname] at hc
  rcases List.mem_flatMap.1 hc with ⟨segment, hmem, hsegment⟩
  have hsmall := ((isNormal_normalForm hname).isSegment segment hmem).isSmall
  cases segment with
  | nil => cases hsegment
  | cons first rest =>
    rcases List.forall_mem_cons.1 hsmall with ⟨hfirst, hrest⟩
    rcases List.mem_cons.1 hsegment with rfl | hletter
    · exact Text.isAlphanum_toUpper_of_isSmall hfirst
    · exact Text.isAlphanum_of_isSmall (hrest c hletter)

/-- Only underscores leave nothing behind the beginning of the identifier. -/
theorem pascalCase_eq_nil_iff (hname : ∀ c ∈ name, Go.isWordChar c = true) :
    pascalCase name = [] ↔ ∀ c ∈ name, c = '_' := by
  have hpieces := isAlphanum_of_mem_pieces hname
  -- A piece between underscores vanishes only if it was empty.
  have hempty : ∀ piece ∈ Text.pieces '_' name, capitalise piece = [] ↔ piece = [] := by
    intro piece hpiece
    rw [capitalise_eq_upperFirst (hpieces piece hpiece)]
    cases piece with
    | nil => simp [upperFirst]
    | cons first rest => simp [upperFirst]
  rw [pascalCase, List.flatMap_eq_nil_iff]
  constructor
  · intro hnil c hc
    by_contra hunderscore
    rcases Text.exists_mem_pieces_iff.2 ⟨hc, hunderscore⟩ with ⟨piece, hpiece, hmem⟩
    rw [(hempty piece hpiece).1 (hnil piece hpiece)] at hmem
    cases hmem
  · intro hall piece hpiece
    rw [hempty piece hpiece]
    apply List.eq_nil_iff_forall_not_mem.2
    intro c hc
    rcases Text.exists_mem_pieces_iff.1 ⟨piece, hpiece, hc⟩ with ⟨hmem, hunderscore⟩
    exact hunderscore (hall c hmem)

/-- No reserved word begins as identifiers do. -/
theorem identifierPrefix_append_not_mem_keywords (rest : Text) :
    identifierPrefix ++ rest ∉ Go.keywords := by
  intro hmem
  have hheads : ∀ keyword ∈ Go.keywords, keyword.head? ≠ some 'E' := by decide
  exact hheads _ hmem rfl

theorem isIdentifier_identifierPrefix_append {rest : Text}
    (h : ∀ c ∈ rest, c.isAlphanum = true) : Go.isIdentifier (identifierPrefix ++ rest) = true := by
  have hkeyword := identifierPrefix_append_not_mem_keywords rest
  have hword : ∀ c ∈ rest, Go.isWordChar c = true := by
    intro c hc
    simp [Go.isWordChar, h c hc]
  have hbegin : identifierPrefix ++ rest = 'E' :: 'r' :: 'r' :: rest := rfl
  have hletter : Go.isWordChar 'r' = true := rfl
  rw [hbegin] at hkeyword ⊢
  simpa [Go.isIdentifier, hkeyword, hletter] using hword

/-- A name has no proper identifier exactly if it is made of underscores. -/
theorem isEntryIdentifier_identifier_iff {e : Entry}
    (hname : ∀ c ∈ e.name, Go.isWordChar c = true) :
    isEntryIdentifier e.identifier = false ↔ ∀ c ∈ e.name, c = '_' := by
  have hidentifier := isIdentifier_identifierPrefix_append (isAlphanum_of_mem_pascalCase hname)
  rw [← pascalCase_eq_nil_iff hname, isEntryIdentifier, identifier, hidentifier]
  simp

/-- Names of word characters share an identifier exactly when they have the same normal form. The
identifier is made of ASCII letters and digits, and the check refuses such a name for it exactly
when the name is nothing but underscores. -/
theorem identifier_eq_iff_normalForm (e other : Entry)
    (hname : ∀ c ∈ e.name, Go.isWordChar c = true)
    (hother : ∀ c ∈ other.name, Go.isWordChar c = true) :
    (e.identifier = other.identifier ↔ normalForm e.name = normalForm other.name)
    ∧ (∀ c ∈ e.identifier, c.isAlphanum = true)
    ∧ ∀ before behind : List Entry, AreRenderable before →
        (firstFault? (before ++ e :: behind) = some (.badName e.name) ↔
          ∀ c ∈ e.name, c = '_') := by
  refine ⟨?_, ?_, ?_⟩
  · rw [← pascalCase_eq_iff hname hother]
    exact List.append_right_inj identifierPrefix
  · have hbegin : ∀ c ∈ identifierPrefix, c.isAlphanum = true := List.all_eq_true.1 rfl
    exact List.forall_mem_append.2 ⟨hbegin, isAlphanum_of_mem_pascalCase hname⟩
  · intro before behind hbefore
    rw [← isEntryIdentifier_identifier_iff hname]
    constructor
    · intro hfault
      -- Whoever is blamed has the same name, and the identifier depends on nothing else.
      rcases firstFault?_eq_some_iff.1 hfault with ⟨i, blamed, -, -, hblames⟩
      rcases hblames.of_badName with ⟨hsame, hbad⟩
      have hidentifier : blamed.identifier = e.identifier := by
        rw [identifier, identifier, hsame]
      rwa [hidentifier] at hbad
    · intro hbad
      exact firstFault?_of_blames hbefore (.badName hbad) behind

/-- A digit marks no boundary and an empty segment leaves none, but a letter does mark one. -/
theorem identifier_collisions :
    (internal 1 "A_1" []).identifier = (internal 2 "A1" []).identifier
    ∧ (internal 1 "a__b" []).identifier = (internal 2 "A_B" []).identifier
    ∧ (internal 1 "AB" []).identifier ≠ (internal 2 "A_B" []).identifier
    ∧ firstFault? [internal 1 "A_B" [], internal 2 "__" []] = some (.badName "__") := by
  -- The names are made of word characters.
  have hA_1 : ∀ c ∈ (internal 1 "A_1" []).name, Go.isWordChar c = true := List.all_eq_true.1 rfl
  have hA1 : ∀ c ∈ (internal 2 "A1" []).name, Go.isWordChar c = true := List.all_eq_true.1 rfl
  have ha__b : ∀ c ∈ (internal 1 "a__b" []).name, Go.isWordChar c = true := List.all_eq_true.1 rfl
  have hA_B : ∀ c ∈ (internal 2 "A_B" []).name, Go.isWordChar c = true := List.all_eq_true.1 rfl
  have hAB : ∀ c ∈ (internal 1 "AB" []).name, Go.isWordChar c = true := List.all_eq_true.1 rfl
  have hunderscores : ∀ c ∈ (internal 2 "__" []).name, Go.isWordChar c = true :=
    List.all_eq_true.1 rfl
  have hbefore : AreRenderable [internal 1 "A_B" []] :=
    firstFault?_eq_none_iff.1 (by decide +kernel)
  refine ⟨?_, ?_, ?_, ?_⟩
  · exact (identifier_eq_iff_normalForm _ _ hA_1 hA1).1.2 rfl
  · exact (identifier_eq_iff_normalForm _ _ ha__b hA_B).1.2 rfl
  · intro heq
    exact absurd ((identifier_eq_iff_normalForm _ _ hAB hA_B).1.1 heq) (by decide)
  · have hrefused := (identifier_eq_iff_normalForm _ _ hunderscores hA_B).2.2 _ [] hbefore
    exact hrefused.2 (by simp [internal])

end Entry

end ErrorCatalog
