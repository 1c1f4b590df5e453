import ErrorCatalog.Go.PackageName
import ErrorCatalog.Proofs.Text.Layout
import ErrorCatalog.Proofs.Text.Words
/-!
# Package names are last segments in lower case

A path has one last segment, whatever blanks stand around the path and however many slashes end it.
The package name is that segment without its separators and with each of its characters put in lower
case, since words are put together again as they were cut.
-/

namespace ErrorCatalog

namespace Go

open Text (IsTrimmed Stops isBlank keptClusters lowerChar words)

/-! ## Last segments -/

structure PathParts where
  left : Text
  front : Text
  segment : Text
  slashes : Text
  right : Text

namespace PathParts

def core (p : PathParts) : Text :=
  p.front ++ p.segment ++ p.slashes

def path (p : PathParts) : Text :=
  p.left ++ p.core ++ p.right

/-- All blanks at the ends of the path are left aside, then all slashes at its end; in front of the
segment stands nothing, or what ends in a slash. -/
structure IsProper (p : PathParts) : Prop where
  left_isBlank : ∀ c ∈ p.left, isBlank c = true
  right_isBlank : ∀ c ∈ p.right, isBlank c = true
  core_isTrimmed : IsTrimmed isBlank p.core
  slashes_eq : ∀ c ∈ p.slashes, c = '/'
  stops_slashes : Stops (· = '/') (p.front ++ p.segment).reverse
  slash_not_mem : '/' ∉ p.segment
  stops_front : Stops (· != '/') p.front.reverse

end PathParts

/-- Proper parts make up the path, and this is the segment among them. -/
def IsLastSegment (path segment : Text) : Prop :=
  ∃ p : PathParts, p.IsProper ∧ p.path = path ∧ p.segment = segment

/-- The last segment of a path put together from parts is the part meant. -/
theorem PathParts.IsProper.lastSegment_path {p : PathParts} (hp : p.IsProper) :
    lastSegment p.path = p.segment := by
  have hcore : Text.trimBlank p.path = p.core := by
    rw [Text.trimBlank, path, Text.trim_append_of_all_behind hp.right_isBlank,
      Text.trim_append_of_all hp.left_isBlank, Text.trim_eq_self hp.core_isTrimmed]
  have hslashes : ∀ c ∈ p.slashes, decide (c = '/') = true := by
    simpa using hp.slashes_eq
  have hsegment : ∀ c ∈ p.segment, (!decide (c = '/')) = true := by
    intro c hc
    have hne : c ≠ '/' := ne_of_mem_of_not_mem hc hp.slash_not_mem
    simpa using hne
  -- From the outside in: the slashes at the end go first, then all up to the last of the others.
  rw [lastSegment, hcore, core, Text.trimEnd_append_of_stops hslashes hp.stops_slashes]
  exact Text.takeEnd_append_of_stops hsegment hp.stops_front

/-- Every path can be put together around its last segment. -/
theorem isLastSegment_lastSegment (path : Text) : IsLastSegment path (lastSegment path) := by
  -- The parts are cut off in the order in which the last segment is found.
  let core := Text.trimBlank path
  let named := Text.trimEnd (· = '/') core
  let behind := path.dropWhile isBlank
  let p : PathParts := ⟨path.takeWhile isBlank, Text.trimEnd (· != '/') named, lastSegment path,
    Text.takeEnd (· = '/') core, Text.takeEnd isBlank behind⟩
  have hnamed : p.front ++ p.segment = named := Text.trimEnd_append_takeEnd (· != '/') named
  have hcore : p.core = core := by
    rw [PathParts.core, hnamed]
    exact Text.trimEnd_append_takeEnd (· = '/') core
  have hpath : p.path = path := by
    rw [PathParts.path, hcore, List.append_assoc]
    have hbehind : core ++ p.right = behind := Text.trimEnd_append_takeEnd isBlank behind
    rw [hbehind]
    exact List.takeWhile_append_dropWhile
  have hproper : p.IsProper := {
    left_isBlank := fun _ hc => List.mem_takeWhile_imp hc
    right_isBlank := fun _ hc => Text.mem_takeEnd hc
    core_isTrimmed := hcore ▸ Text.isTrimmed_trim isBlank path
    slashes_eq := fun _ hc => of_decide_eq_true (Text.mem_takeEnd hc)
    stops_slashes := hnamed ▸ Text.stops_reverse_trimEnd (· = '/') core
    slash_not_mem := by
      intro hmem
      have hslash := Text.mem_takeEnd hmem
      cases hslash
    stops_front := Text.stops_reverse_trimEnd (· != '/') named }
  exact ⟨p, hproper, hpath, rfl⟩

/-- A path has exactly one last segment. -/
theorem isLastSegment_iff {path segment : Text} :
    IsLastSegment path segment ↔ segment = lastSegment path := by
  constructor
  · rintro ⟨p, hp, rfl, rfl⟩
    exact hp.lastSegment_path.symm
  · rintro rfl
    exact isLastSegment_lastSegment path

/-- The last segment brings in no new character. -/
theorem mem_of_mem_lastSegment {path : Text} {c : Char} (h : c ∈ lastSegment path) : c ∈ path := by
  rcases isLastSegment_lastSegment path with ⟨p, -, rfl, hsegment⟩
  rw [← hsegment] at h
  simp [PathParts.path, PathParts.core, h]

/-! ## Package names -/

/-- Without a capital sigma in its path, a package is named by the last segment: the clusters that
are a hyphen, an underscore or a space are left out, and each other character is put in lower case
on its own. The words hold these characters as they stand, and any other cut would give the same
name. -/
theorem packageName_eq_flatMap {path : Text} (h : 'Σ' ∉ path) :
    (∀ segment, IsLastSegment path segment ↔ segment = lastSegment path)
      ∧ packageName path = (keptClusters (lastSegment path)).flatten.flatMap lowerChar
      ∧ (words (lastSegment path)).flatten = (keptClusters (lastSegment path)).flatten
      ∧ ∀ cut : List Text, cut.flatten = (keptClusters (lastSegment path)).flatten →
          cut.flatMap Text.lower = packageName path := by
  -- Without a sigma, lower case does not depend on the place in the word, so cuts do not matter.
  have hkept : 'Σ' ∉ (keptClusters (lastSegment path)).flatten := by
    intro hmem
    exact h (mem_of_mem_lastSegment (Text.mem_of_mem_keptClusters hmem))
  have hname : packageName path = (keptClusters (lastSegment path)).flatten.flatMap lowerChar :=
    Text.flatCase_eq_flatMap hkept
  refine ⟨fun _ => isLastSegment_iff, hname, Text.flatten_words _, ?_⟩
  intro cut hcut
  rw [← hcut] at hkept
  rw [Text.flatMap_lower hkept, hcut, hname]

/-- Words that end at an acronym, at digits and at a change of case, an underscore below an accent
that separates nothing, and a letter whose lower-case form has two characters. -/
theorem exists_packageName_of_cut_words :
    ∃ path segment : Text, IsLastSegment path segment
      ∧ 'Σ' ∉ path
      ∧ words segment = (["XML", "Http", "2", "Go_\u0301\u0130", "x"] : List Text)
      ∧ packageName path = ("xmlhttp2go_\u0301i\u0307x" : Text) := by
  have hsigma : 'Σ' ∉ (" acme/XMLHttp2Go_\u0301\u0130-x// " : Text) := by decide
  obtain ⟨hlast, hname, -⟩ := packageName_eq_flatMap hsigma
  refine ⟨_, "XMLHttp2Go_\u0301\u0130-x", (hlast _).2 (by decide +kernel), hsigma, ?_, ?_⟩
  · decide +kernel
  · exact hname.trans (by decide +kernel)

end Go

end ErrorCatalog
