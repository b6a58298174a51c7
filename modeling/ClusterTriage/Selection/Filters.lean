import ClusterTriage.Selection.Registry
import ClusterTriage.Settings.Basic
import ClusterTriage.Text.Styled

/-!
# Configured filters

The configured filters name the analyzers that run by default. As long as none are configured the
core group is in effect, and the first edit starts from it.
-/

namespace ClusterTriage

inductive FilterError where
  | unknown (name : String)
  | inactive (name : String)
deriving DecidableEq, Repr

def FilterError.message : FilterError → String
  | .unknown name => s!"Filter {name} does not exist. Please run kube-doctor filters list."
  | .inactive name => s!"Filter {name} is not active"

namespace Filters

variable {α : Type}

def effective (s : Settings) (r : Registry α) : List String :=
  if s.analysis.activeFilters.isEmpty then r.core.names else s.analysis.activeFilters

def withActive (s : Settings) (active : List String) : Settings :=
  { s with analysis := { s.analysis with activeFilters := active } }

/-- Appends the names that are not there yet, and says which ones those are. -/
def appendMissing (active : List String) : List String → List String × List String
  | [] => (active, [])
  | name :: rest =>
    if name ∈ active then appendMissing active rest
    else
      let (active, added) := appendMissing (active ++ [name]) rest
      (active, name :: added)

/-- Activates filters, and says which were not active before. -/
def add (s : Settings) (names : List String) (r : Registry α) :
    Except FilterError (Settings × List String) :=
  match names.find? fun name => !r.contains name with
  | some name => .error (.unknown name)
  | none =>
    let (active, added) := appendMissing (effective s r) names
    .ok (withActive s active, added)

def remove (s : Settings) (names : List String) (r : Registry α) : Except FilterError Settings :=
  let active := effective s r
  match names.find? fun name => name ∉ active with
  | some name => .error (.inactive name)
  | none => .ok (withActive s (active.filter fun name => name ∉ names))

/-! ## The list of filters -/

/-- A heading and a line for each name. -/
def headed (colour : Bool) (heading : String) (look : Text.Attribute) (names : List String) :
    List String :=
  Text.styled colour [.bold] heading ::
    names.map fun name => "> " ++ Text.styled colour [look] name

/-- The lines of the list: the filters in effect, the other names, the custom analyzers. -/
def listLines (colour : Bool) (s : Settings) (r : Registry α) : List String :=
  let active := effective s r
  let unused := r.names.filter (· ∉ active)
  headed colour "Active:" .green active ++
    (if unused.isEmpty then [] else headed colour "Unused:" .red unused) ++
    (if s.analysis.plugins.isEmpty then []
      else
        Text.styled colour [.bold] "Custom analyzers:" ::
          s.analysis.plugins.map fun p =>
            "> " ++ Text.styled colour [.cyan] p.name ++ s!" ({p.url}:{p.port})")

def list (colour : Bool) (s : Settings) (r : Registry α) : String :=
  String.join ((listLines colour s r).map (· ++ "\n"))

end Filters
end ClusterTriage
