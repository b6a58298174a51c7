import ClusterTriage.Selection.Registry

/-!
# Selecting analyzers

Filters that were asked for come before filters that are configured, and without either the core
group runs. An unknown name that was asked for is reported; one that is configured is passed over.
-/

namespace ClusterTriage

/-- Where a selection comes from. -/
inductive SelectionSource where
  | explicit
  | activeFilters
  | coreDefaults
deriving DecidableEq, Repr

/-- The analyzers to run, by name, and what was wrong with the request. -/
structure Selection (α : Type) where
  source : SelectionSource
  analyzers : List (String × α)
  errors : List String

namespace Selection

variable {α : Type}

def unknownFilter (name : String) : String :=
  "\"" ++ name ++ "\" filter does not exist. Please run kube-doctor filters list."

/-- The analyzers of those names that are known, in the order of the names. -/
def known (r : Registry α) (names : List String) : List (String × α) :=
  names.filterMap fun name => (r.find? name).map (name, ·)

def unknown (r : Registry α) (names : List String) : List String :=
  names.filter fun name => !r.contains name

/-- Selects analyzers by the filters asked for and the filters configured. -/
def ofFilters (explicit active : List String) (r : Registry α) : Selection α :=
  if !explicit.isEmpty then
    ⟨.explicit, known r explicit, (unknown r explicit).map unknownFilter⟩
  else if !active.isEmpty then ⟨.activeFilters, known r active, []⟩
  else ⟨.coreDefaults, r.core.entries, []⟩

end Selection
end ClusterTriage
