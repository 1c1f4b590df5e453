import ErrorCatalog.Generated.Package
import ErrorCatalog.Proofs.Text.AsciiLower
/-!
# Names that package clauses get

An identifier may hold capitals and underscores, and the underscore alone is one, which no package
can be named by. None of these comes out of a module path: where its name is an identifier, the name
has small letters and digits only.
-/

namespace ErrorCatalog

namespace Go

/-- A letter from `a` to `z`, then such letters and digits, and no reserved word. -/
structure IsPackageWord (package : Text) : Prop where
  exists_first : ∃ first rest, package = first :: rest ∧ first.isLower = true
  isSmall : ∀ c ∈ package, Text.isSmall c = true
  not_keyword : package ∉ keywords

/-- A package word is an identifier and no keyword. -/
theorem IsPackageWord.isIdentifier {package : Text} (h : IsPackageWord package) :
    isIdentifier package = true := by
  rcases h.exists_first with ⟨first, rest, rfl, hfirst⟩
  have halpha : first.isAlpha = true := by simp [Char.isAlpha, hfirst]
  have hrest : ∀ c ∈ rest, isWordChar c = true := by
    intro c hc
    simp [isWordChar, Text.isAlphanum_of_isSmall (h.isSmall c (List.mem_cons_of_mem first hc))]
  have hkeyword := h.not_keyword
  simp only [Go.isIdentifier, Bool.and_eq_true, List.all_eq_true]
  exact ⟨⟨by simp [halpha], hrest⟩, by simpa using hkeyword⟩

/-- An identifier of small letters and digits is a package word. -/
theorem isPackageWord_of_isIdentifier {package : Text}
    (hsmall : ∀ c ∈ package, Text.isSmall c = true) (h : isIdentifier package = true) :
    IsPackageWord package := by
  cases package with
  | nil => cases h
  | cons first rest =>
    simp only [isIdentifier, Bool.and_eq_true, Bool.or_eq_true, decide_eq_true_eq,
      Bool.not_eq_true', List.contains_eq_mem, decide_eq_false_iff_not] at h
    rcases h with ⟨⟨hfirst, -⟩, hkeyword⟩
    refine ⟨⟨first, rest, rfl, ?_⟩, hsmall, hkeyword⟩
    -- A small character that may come first is not a digit.
    have hfirstSmall := hsmall first List.mem_cons_self
    simp only [Text.isSmall, Bool.or_eq_true] at hfirstSmall
    rcases hfirstSmall with hlower | hdigit
    · exact hlower
    · rcases hfirst with halpha | rfl
      · rw [Text.isAlpha_of_isDigit hdigit] at halpha
        cases halpha
      · cases hdigit

/-- The name of a package is an identifier only as a word of small letters and digits. -/
theorem isIdentifier_packageName_iff {path : Text} :
    isIdentifier (packageName path) = true ↔ IsPackageWord (packageName path) := by
  constructor
  · intro h
    have hsmall := Text.isSmall_of_mem_flatCase (isWordChar_of_isIdentifier h)
    exact isPackageWord_of_isIdentifier hsmall h
  · exact IsPackageWord.isIdentifier

theorem IsPackageWord.not_isUpper {package : Text} (h : IsPackageWord package) :
    ∀ c ∈ package, c.isUpper = false ∧ c ≠ '_' := by
  intro c hc
  have hsmall := h.isSmall c hc
  refine ⟨Text.isUpper_of_isSmall hsmall, ?_⟩
  rintro rfl
  cases hsmall

end Go

namespace PackageSpec

variable {spec : PackageSpec} {package : Text}

/-- The package is the word made of the name, if that is an identifier. -/
theorem goPackage_eq_ok_iff :
    spec.goPackage = .ok package ↔
      Go.packageName spec.packageName = package ∧ Go.isIdentifier package = true := by
  unfold goPackage
  constructor
  · intro h
    dsimp only at h
    split at h
    · next hidentifier =>
      cases h
      exact ⟨rfl, hidentifier⟩
    · cases h
  · rintro ⟨rfl, hidentifier⟩
    exact if_pos hidentifier

/-- A specification gives a package clause a word of small letters and digits that starts with a
letter and is not reserved. So the name has neither a capital nor an underscore, and it is never the
underscore alone. -/
theorem isPackageWord_of_goPackage (h : spec.goPackage = .ok package) :
    Go.IsPackageWord package ∧ (∀ c ∈ package, c.isUpper = false ∧ c ≠ '_')
      ∧ package ≠ ("_" : Text) := by
  rcases goPackage_eq_ok_iff.1 h with ⟨rfl, hidentifier⟩
  have hword := Go.isIdentifier_packageName_iff.1 hidentifier
  refine ⟨hword, hword.not_isUpper, ?_⟩
  intro hunderscore
  have hmem : '_' ∈ Go.packageName spec.packageName := by simp [hunderscore]
  exact (hword.not_isUpper '_' hmem).2 rfl

/-- The Kelvin sign and a separating underscore give a name. An underscore below an accent does not
separate and gives none. -/
theorem exists_goPackage_of_kelvinSign :
    ∃ spec refused : PackageSpec,
      spec.packageName = ("github.com/acme/\u212Aey_App2/" : Text)
      ∧ spec.goPackage = .ok "keyapp2"
      ∧ Go.IsPackageWord "keyapp2"
      ∧ refused.packageName = ("github.com/acme/key_\u0301app2" : Text)
      ∧ refused.goPackage
        = .error (.packageName "github.com/acme/key_\u0301app2" "key_\u0301app2") := by
  have hname : PackageSpec.goPackage ⟨"github.com/acme/\u212Aey_App2/", [], [], []⟩
      = .ok "keyapp2" := goPackage_eq_ok_iff.2 ⟨by decide +kernel, by decide +kernel⟩
  -- An accent behind the underscore makes one cluster of both, which is kept and is no letter.
  have hrefused : Go.packageName "github.com/acme/key_\u0301app2" = "key_\u0301app2" := by
    decide +kernel
  have hidentifier : Go.isIdentifier "key_\u0301app2" = false := by decide +kernel
  rcases isPackageWord_of_goPackage hname with ⟨hword, -, -⟩
  refine ⟨_, ⟨"github.com/acme/key_\u0301app2", [], [], []⟩, rfl, hname, hword, rfl, ?_⟩
  simp only [goPackage, hrefused, hidentifier]
  rfl

end PackageSpec

end ErrorCatalog
