import ErrorCatalog.Generated.Package
import ErrorCatalog.SortedTable
/-!
# Registered frameworks

Frameworks are looked up by the names they are registered under. The empty name stands for the
default name; what is registered under the empty name itself is listed, but no look-up finds it.
A registry does not look at what is registered in it, so it may hold generators of any kind; those
that a run uses hold frameworks.
-/

namespace ErrorCatalog

/-- Frameworks, or generators of another kind, by the names they are registered under. -/
abbrev Registry (γ : Type := Framework) := SortedTable Text γ

namespace Registry

variable {γ : Type}

/-- The name that the empty name stands for. -/
def defaultTarget : Text :=
  Framework.plain.name

def builtin : Registry :=
  .ofPairs ([.plain, .goZero, .goFrame].map fun framework => (framework.name, framework))

/-- Registers a generator under a name, in the place of what was there. -/
def register (registry : Registry γ) (name : Text) (generator : γ) : Registry γ :=
  SortedTable.put name generator registry

def targets (registry : Registry γ) : List Text :=
  SortedTable.keys registry

def hasTarget (registry : Registry γ) (name : Text) : Bool :=
  (SortedTable.get? registry name).isSome

def resolve (registry : Registry γ) (name : Text) : Except Failure γ :=
  match SortedTable.get? registry (if name.isEmpty then defaultTarget else name) with
  | some generator => .ok generator
  | none => .error (.unknownTarget name registry.targets)

end Registry

def generate (spec : PackageSpec) (entries : List Entry) : Except Failure (List Generated.File) :=
  match Registry.builtin.resolve spec.target with
  | .error failure => .error failure
  | .ok framework => framework.generate spec entries

end ErrorCatalog
