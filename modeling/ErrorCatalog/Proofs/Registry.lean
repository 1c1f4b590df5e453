import ErrorCatalog.Proofs.SortedTable
import ErrorCatalog.Registry
import Mathlib.Data.Char
import Mathlib.Data.List.Lex
/-!
# What a registry tells after any steps

A registry is made anew, empty or with the frameworks of the library, and generators of any kind are
registered in it. Beside it stands its log: the registrations since it was last made anew, the
latest first. Whatever the steps were, names, membership, look-ups and refusals of the registry are
those of its log, where a later registration of a name hides the earlier ones. The empty name is
looked up as the default name, so nothing that is registered under the empty name itself is ever
found.
-/

namespace ErrorCatalog

namespace Registry

variable {γ : Type} {registry : Registry γ} {log : List (Text × γ)} {name other : Text}
  {generator found : γ}

/-! ## Steps -/

inductive Step (γ : Type) where
  | new
  | withBuiltin
  | register (name : Text) (generator : γ)

def builtinFrameworks : List Framework :=
  [.plain, .goZero, .goFrame]

/-- The registry that holds the frameworks of the library and nothing else, where `ofFramework` says
which generators they are. -/
def withBuiltin (ofFramework : Framework → γ) : Registry γ :=
  builtinFrameworks.foldl
    (fun registry framework => registry.register framework.name (ofFramework framework)) []

example : withBuiltin id = Registry.builtin := rfl

def apply (ofFramework : Framework → γ) (registry : Registry γ) : Step γ → Registry γ
  | .new => []
  | .withBuiltin => withBuiltin ofFramework
  | .register name generator => registry.register name generator

def after (ofFramework : Framework → γ) (steps : List (Step γ)) : Registry γ :=
  steps.foldl (apply ofFramework) (withBuiltin ofFramework)

/-! ## Logs -/

def builtinLog (ofFramework : Framework → γ) : List (Text × γ) :=
  (builtinFrameworks.map fun framework => (framework.name, ofFramework framework)).reverse

def record (ofFramework : Framework → γ) (log : List (Text × γ)) : Step γ → List (Text × γ)
  | .new => []
  | .withBuiltin => builtinLog ofFramework
  | .register name generator => (name, generator) :: log

/-- The registrations since the registry was last made anew, the latest first. -/
def logOf (ofFramework : Framework → γ) (steps : List (Step γ)) : List (Text × γ) :=
  steps.foldl (record ofFramework) (builtinLog ofFramework)

/-! ## A registry and its log -/

/-- The rows of the registry are in order, and for each name it has what was registered last. -/
structure Follows (log : List (Text × γ)) (registry : Registry γ) : Prop where
  isAscending : SortedTable.IsAscending registry
  get?_eq : ∀ name : Text, SortedTable.get? registry name = log.lookup name

theorem follows_nil : Follows ([] : List (Text × γ)) ([] : Registry γ) :=
  ⟨.nil, fun _ => rfl⟩

/-- A registration is one more line of the log. -/
theorem Follows.register (h : Follows log registry) (name : Text) (generator : γ) :
    Follows ((name, generator) :: log) (registry.register name generator) := by
  refine ⟨h.isAscending.put name generator, ?_⟩
  intro other
  rw [Registry.register, SortedTable.get?_put, h.get?_eq, List.lookup_cons]
  by_cases heq : name = other
  · simp [heq]
  · have hne : (other == name) = false := beq_false_of_ne (Ne.symm heq)
    simp [heq, hne]

/-- The registry starts from the log of the frameworks. -/
theorem follows_withBuiltin (ofFramework : Framework → γ) :
    Follows (builtinLog ofFramework) (withBuiltin ofFramework) :=
  ((follows_nil.register _ _).register _ _).register _ _

/-- A step keeps a registry with its log. -/
theorem Follows.apply (h : Follows log registry) (ofFramework : Framework → γ) (step : Step γ) :
    Follows (record ofFramework log step) (apply ofFramework registry step) := by
  cases step with
  | new => exact follows_nil
  | withBuiltin => exact follows_withBuiltin ofFramework
  | register name generator => exact h.register name generator

/-- Every step keeps the registry with its log. The induction is on the steps. -/
theorem Follows.foldl (h : Follows log registry) (ofFramework : Framework → γ)
    (steps : List (Step γ)) :
    Follows (steps.foldl (record ofFramework) log)
      (steps.foldl (Registry.apply ofFramework) registry) := by
  induction steps generalizing log registry with
  | nil => exact h
  | cons step steps ih => exact ih (h.apply ofFramework step)

/-- After any steps the registry follows the log of them all. -/
theorem follows_after (ofFramework : Framework → γ) (steps : List (Step γ)) :
    Follows (logOf ofFramework steps) (after ofFramework steps) :=
  (follows_withBuiltin ofFramework).foldl ofFramework steps

/-! ## Names -/

theorem lookup_eq_none_iff : log.lookup name = none ↔ name ∉ log.map Prod.fst := by
  rw [List.lookup_eq_none_iff, List.mem_map]
  constructor
  · rintro h ⟨row, hrow, rfl⟩
    exact bne_iff_ne.1 (h row hrow) rfl
  · intro h row hrow
    refine bne_iff_ne.2 ?_
    rintro rfl
    exact h ⟨row, hrow, rfl⟩

/-- The question for a target is answered from the list of targets. -/
theorem hasTarget_iff : registry.hasTarget name = true ↔ name ∈ registry.targets := by
  rw [hasTarget, Option.isSome_iff_ne_none, ne_eq, SortedTable.get?_eq_none_iff, not_not, targets]

/-- The targets are the names of the log. -/
theorem Follows.mem_targets_iff (h : Follows log registry) :
    name ∈ registry.targets ↔ name ∈ log.map Prod.fst := by
  rw [← not_iff_not, targets, ← SortedTable.get?_eq_none_iff, h.get?_eq, lookup_eq_none_iff]

/-- The targets stand in strictly ascending order. -/
theorem Follows.pairwise_targets (h : Follows log registry) :
    registry.targets.Pairwise (· < ·) :=
  List.pairwise_map.2 h.isAscending

/-! ## Look-ups -/

def lookUpName (name : Text) : Text :=
  if name = [] then defaultTarget else name

theorem lookUpName_nil : lookUpName [] = defaultTarget := rfl

/-- A name that is not empty stands for itself. -/
theorem lookUpName_of_ne (h : name ≠ []) : lookUpName name = name :=
  if_neg h

theorem lookUpName_defaultTarget : lookUpName defaultTarget = defaultTarget := rfl

/-- No name is looked up as the empty one. -/
theorem lookUpName_ne_nil (name : Text) : lookUpName name ≠ [] := by
  unfold lookUpName
  split_ifs with h
  · exact List.cons_ne_nil _ _
  · exact h

/-- Resolving is a lookup of the name, where the empty one stands for the default. -/
theorem resolve_eq_match (registry : Registry γ) (name : Text) :
    registry.resolve name =
      match SortedTable.get? registry (lookUpName name) with
      | some generator => .ok generator
      | none => .error (.unknownTarget name registry.targets) := by
  have hname : (if name.isEmpty then defaultTarget else name) = lookUpName name := by
    simp [lookUpName]
  unfold resolve
  cases hget : SortedTable.get? registry (lookUpName name) with
  | none => simp only [hname, hget]
  | some known => simp only [hname, hget]

/-- Resolving succeeds exactly if the lookup finds a generator. -/
theorem resolve_eq_ok_iff :
    registry.resolve name = .ok generator ↔
      SortedTable.get? registry (lookUpName name) = some generator := by
  rw [resolve_eq_match]
  cases SortedTable.get? registry (lookUpName name) with
  | none => simp
  | some known => simp

/-- Resolving fails exactly on an unknown name, with the name as it was asked for. -/
theorem resolve_eq_error_iff {failure : Failure} :
    registry.resolve name = .error failure ↔
      lookUpName name ∉ registry.targets ∧ failure = .unknownTarget name registry.targets := by
  rw [resolve_eq_match, targets, ← SortedTable.get?_eq_none_iff]
  cases SortedTable.get? registry (lookUpName name) with
  | none => simp [eq_comm]
  | some known => simp

/-- A registration changes no other name. -/
theorem resolve_register_eq_ok_iff (h : lookUpName other ≠ name) :
    (registry.register name generator).resolve other = .ok found ↔
      registry.resolve other = .ok found := by
  rw [resolve_eq_ok_iff, resolve_eq_ok_iff, register, SortedTable.get?_put, if_neg (Ne.symm h)]

/-! ## What is told -/

/-- What a registry tells when `log` holds the registrations that count, the latest first. -/
structure Tells (log : List (Text × γ)) (registry : Registry γ) : Prop where
  ascending : registry.targets.Pairwise (· < ·)
  targets : ∀ name : Text, name ∈ registry.targets ↔ name ∈ log.map Prod.fst
  hasTarget : ∀ name : Text, registry.hasTarget name = true ↔ name ∈ registry.targets
  resolves : ∀ name : Text, name ≠ [] → ∀ generator : γ,
    registry.resolve name = .ok generator ↔ log.lookup name = some generator
  refuses : ∀ name : Text, name ≠ [] → ∀ failure : Failure,
    registry.resolve name = .error failure ↔
      name ∉ registry.targets ∧ failure = .unknownTarget name registry.targets
  resolves_empty : ∀ generator : γ,
    registry.resolve [] = .ok generator ↔ registry.resolve defaultTarget = .ok generator
  refuses_empty : ∀ failure : Failure,
    registry.resolve [] = .error failure ↔
      defaultTarget ∉ registry.targets ∧ failure = .unknownTarget [] registry.targets
  -- What is found was registered last under a name other than the empty one.
  found : ∀ (name : Text) (generator : γ), registry.resolve name = .ok generator →
    ∃ other : Text, other ≠ [] ∧ log.lookup other = some generator

/-- What the registry tells can be read off its log. -/
theorem Follows.tells (h : Follows log registry) : Tells log registry where
  ascending := h.pairwise_targets
  targets _ := h.mem_targets_iff
  hasTarget _ := hasTarget_iff
  resolves name hne generator := by
    rw [resolve_eq_ok_iff, lookUpName_of_ne hne, h.get?_eq]
  refuses name hne failure := by
    rw [resolve_eq_error_iff, lookUpName_of_ne hne]
  resolves_empty generator := by
    -- Both sides look up the default target.
    rw [resolve_eq_ok_iff, resolve_eq_ok_iff, lookUpName_nil, lookUpName_defaultTarget]
  refuses_empty failure := resolve_eq_error_iff
  found name generator hresolve := by
    refine ⟨lookUpName name, lookUpName_ne_nil name, ?_⟩
    rw [← h.get?_eq]
    exact resolve_eq_ok_iff.1 hresolve

/-- After any steps a registry tells what its log holds. Registering under a name changes what no
other name selects, but that the empty name goes with the default name; registering under the empty
name changes what no name at all selects. -/
theorem tells_after (ofFramework : Framework → γ) (steps : List (Step γ)) :
    Tells (logOf ofFramework steps) (after ofFramework steps)
    ∧ (∀ (name : Text) (generator : γ) (other : Text),
        other ≠ name → (other = [] → name ≠ defaultTarget) → ∀ found : γ,
          (after ofFramework (steps ++ [.register name generator])).resolve other = .ok found ↔
            (after ofFramework steps).resolve other = .ok found)
    ∧ ∀ (generator : γ) (other : Text) (found : γ),
        (after ofFramework (steps ++ [.register [] generator])).resolve other = .ok found ↔
          (after ofFramework steps).resolve other = .ok found := by
  have hstep (name : Text) (generator : γ) :
      after ofFramework (steps ++ [.register name generator])
        = (after ofFramework steps).register name generator := by
    simp [after, apply]
  -- The frame is that of the last step, which is taken off the end of the log first.
  refine ⟨(follows_after ofFramework steps).tells, ?_, ?_⟩
  · intro name generator other hne hdefault found
    rw [hstep]
    refine resolve_register_eq_ok_iff ?_
    -- The empty name is an alias of the default target, so it needs the second premise.
    by_cases hother : other = []
    · rw [hother, lookUpName_nil]
      exact Ne.symm (hdefault hother)
    · rwa [lookUpName_of_ne hother]
  · intro generator other found
    rw [hstep]
    -- No name is looked up under the empty one, so a generator there is never found.
    exact resolve_register_eq_ok_iff (lookUpName_ne_nil other)

end Registry

end ErrorCatalog
