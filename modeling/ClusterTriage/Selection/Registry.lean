import ClusterTriage.NameMap

/-!
# The registry of analyzers

Analyzers are known by name and come in two groups: the core ones run unless something else is asked
for, the additional ones only when they are named. What an analyzer is does not matter here, so the
registry is generic in it.
-/

namespace ClusterTriage

/-- Named analyzers in two groups. -/
structure Registry (α : Type) where
  core : NameMap α := .empty
  additional : NameMap α := .empty

namespace Registry

variable {α : Type}

/-- Adds a core analyzer, in place of one of the same name in the group. -/
def withCore (r : Registry α) (name : String) (a : α) : Registry α :=
  { r with core := r.core.insert name a }

def withAdditional (r : Registry α) (name : String) (a : α) : Registry α :=
  { r with additional := r.additional.insert name a }

/-- The analyzer of a name; a core analyzer comes before an additional one. -/
def find? (r : Registry α) (name : String) : Option α :=
  (r.core.find? name).orElse fun _ => r.additional.find? name

def contains (r : Registry α) (name : String) : Bool := (r.find? name).isSome

/-- All names: first those of the core group in order, then those of the other. -/
def names (r : Registry α) : List String := r.core.names ++ r.additional.names

def map {β : Type} (f : α → β) (r : Registry α) : Registry β :=
  ⟨r.core.map f, r.additional.map f⟩

end Registry
end ClusterTriage
