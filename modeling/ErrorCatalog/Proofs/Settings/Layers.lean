import ErrorCatalog.Settings.Basic
import Mathlib.Data.List.Basic
/-!
# Layers of settings

A field is *overlaid* when an upper layer that sets it overrules the lower one. Five of the fields
are overlaid, and so are the two inputs taken together, `Settings.inputs?`: a layer that sets one of
them overrules both. These six make up the settings, so what holds of every overlaid field holds of
layers as a whole: laying them over one another is associative, the layer that leaves everything
open changes nothing, and each field of many layers is that of the last layer which sets it.
-/

namespace ErrorCatalog

namespace Settings

variable {α : Type} {field : Settings → Option α}

/-! ## Overlaid fields -/

/-- What the upper layer sets counts, else what the lower one sets. -/
structure IsOverlaid (field : Settings → Option α) : Prop where
  empty_eq : field empty = none
  merge_eq : ∀ base upper, field (merge base upper) = (field upper).or (field base)

/-- Both inputs, where at least one of them is set. -/
def inputs? (s : Settings) : Option (Option Text × Option Text) :=
  if s.selectsInput then some (s.proto, s.pbfile) else none

theorem isOverlaid_package : IsOverlaid package := ⟨rfl, fun _ _ => rfl⟩

theorem isOverlaid_importPath : IsOverlaid importPath := ⟨rfl, fun _ _ => rfl⟩

theorem isOverlaid_target : IsOverlaid target := ⟨rfl, fun _ _ => rfl⟩

theorem isOverlaid_defaultMessage : IsOverlaid defaultMessage := ⟨rfl, fun _ _ => rfl⟩

theorem isOverlaid_output : IsOverlaid output := ⟨rfl, fun _ _ => rfl⟩

/-- The two paths of the input are one field for merging. -/
theorem proto_eq_bind (s : Settings) : s.proto = s.inputs?.bind Prod.fst := by
  unfold inputs? selectsInput
  cases s.proto <;> cases s.pbfile <;> rfl

theorem pbfile_eq_bind (s : Settings) : s.pbfile = s.inputs?.bind Prod.snd := by
  unfold inputs? selectsInput
  cases s.proto <;> cases s.pbfile <;> rfl

/-- The input is overlaid as a pair, not path by path. -/
theorem isOverlaid_inputs? : IsOverlaid inputs? := by
  refine ⟨rfl, ?_⟩
  intro base upper
  cases hupper : upper.selectsInput with
  | true =>
    -- Both inputs come from the upper layer, so the whole selects an input because it does.
    have hproto : (merge base upper).proto = upper.proto := by simp [merge, hupper]
    have hpbfile : (merge base upper).pbfile = upper.pbfile := by simp [merge, hupper]
    have hselects : (merge base upper).selectsInput = true := by
      rw [selectsInput, hproto, hpbfile]
      exact hupper
    simp [inputs?, hselects, hproto, hpbfile, hupper]
  | false =>
    have hproto : (merge base upper).proto = base.proto := by simp [merge, hupper]
    have hpbfile : (merge base upper).pbfile = base.pbfile := by simp [merge, hupper]
    have hselects : (merge base upper).selectsInput = base.selectsInput := by
      rw [selectsInput, hproto, hpbfile]
      rfl
    simp [inputs?, hselects, hproto, hpbfile, hupper]

/-- Settings that agree on every overlaid field are the same. -/
theorem eq_of_isOverlaid {s t : Settings}
    (h : ∀ {β : Type} {field : Settings → Option β}, IsOverlaid field → field s = field t) :
    s = t := by
  -- The two paths are overlaid together only; each is read off the pair.
  have hproto : s.proto = t.proto := by
    rw [proto_eq_bind, proto_eq_bind, h isOverlaid_inputs?]
  have hpbfile : s.pbfile = t.pbfile := by
    rw [pbfile_eq_bind, pbfile_eq_bind, h isOverlaid_inputs?]
  have hpackage := h isOverlaid_package
  have himportPath := h isOverlaid_importPath
  have htarget := h isOverlaid_target
  have hmessage := h isOverlaid_defaultMessage
  have houtput := h isOverlaid_output
  cases s
  cases t
  simp_all only

/-! ## Two layers and three -/

/-- How layers are grouped does not matter. -/
theorem merge_assoc (lower middle upper : Settings) :
    merge (merge lower middle) upper = merge lower (merge middle upper) := by
  apply eq_of_isOverlaid
  intro β field hfield
  calc field (merge (merge lower middle) upper)
      = (field upper).or ((field middle).or (field lower)) := by
        rw [hfield.merge_eq, hfield.merge_eq]
    _ = ((field upper).or (field middle)).or (field lower) := Option.or_assoc.symm
    _ = field (merge lower (merge middle upper)) := by
        rw [hfield.merge_eq, hfield.merge_eq]

theorem merge_empty (s : Settings) : merge s empty = s := by
  apply eq_of_isOverlaid
  intro β field hfield
  rw [hfield.merge_eq, hfield.empty_eq, Option.none_or]

theorem empty_merge (s : Settings) : merge empty s = s := by
  apply eq_of_isOverlaid
  intro β field hfield
  rw [hfield.merge_eq, hfield.empty_eq, Option.or_none]

/-! ## Any number of layers -/

/-- What the last layer sets that sets a field at all. -/
def lastSet (field : Settings → Option α) (layers : List Settings) : Option α :=
  (layers.filterMap field).getLast?

/-- The last layer that sets a field decides it. The induction is on the layers. -/
theorem IsOverlaid.foldl_merge (h : IsOverlaid field) (base : Settings) (layers : List Settings) :
    field (layers.foldl merge base) = (lastSet field layers).or (field base) := by
  induction layers generalizing base with
  | nil => rfl
  | cons first rest ih =>
    have hfold : field ((first :: rest).foldl merge base)
        = (lastSet field rest).or ((field first).or (field base)) := by
      rw [List.foldl_cons, ih, h.merge_eq]
    rw [hfold, lastSet, lastSet]
    cases hfirst : field first with
    | none => rw [List.filterMap_cons_none hfirst, Option.none_or]
    | some value =>
      -- A later layer overrules the first, and else the first overrules the base.
      rw [List.filterMap_cons_some hfirst, List.getLast?_cons]
      cases (rest.filterMap field).getLast? with
      | none => rfl
      | some later => rfl

theorem IsOverlaid.mergeAll (h : IsOverlaid field) (layers : List Settings) :
    field (mergeAll layers) = lastSet field layers := by
  have hfold := h.foldl_merge empty layers
  rwa [h.empty_eq, Option.or_none] at hfold

/-- The inputs that are set last are those of the last layer which selects an input. -/
theorem lastSet_inputs? (layers : List Settings) :
    lastSet inputs? layers
      = ((layers.filter selectsInput).getLast?).map fun s => (s.proto, s.pbfile) := by
  have hfilter : layers.filterMap inputs?
      = (layers.filter selectsInput).map fun s => (s.proto, s.pbfile) := by
    induction layers with
    | nil => rfl
    | cons first rest ih =>
      -- A layer that selects no input drops out on both sides.
      cases hfirst : first.selectsInput with
      | true =>
        have hinputs : first.inputs? = some (first.proto, first.pbfile) := if_pos hfirst
        rw [List.filterMap_cons_some hinputs, List.filter_cons_of_pos hfirst, List.map_cons, ih]
      | false =>
        have hinputs : first.inputs? = none := by simp [inputs?, hfirst]
        rw [List.filterMap_cons_none hinputs, List.filter_cons_of_neg (by simp [hfirst]), ih]
  rw [lastSet, hfilter, List.getLast?_map]

/-- The path comes from the last layer that selects an input, set there or not. -/
theorem proto_mergeAll (layers : List Settings) :
    (mergeAll layers).proto = (layers.filter selectsInput).getLast?.bind proto := by
  rw [proto_eq_bind, isOverlaid_inputs?.mergeAll, lastSet_inputs?, Option.bind_map]
  rfl

theorem pbfile_mergeAll (layers : List Settings) :
    (mergeAll layers).pbfile = (layers.filter selectsInput).getLast?.bind pbfile := by
  rw [pbfile_eq_bind, isOverlaid_inputs?.mergeAll, lastSet_inputs?, Option.bind_map]
  rfl

end Settings

end ErrorCatalog
