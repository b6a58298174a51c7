import ClusterTriage.Run.Outcome

/-!
# The store of a run

Everything that a run collects: findings, errors and timings, each in the order in which it came
in. The outcome of one analyzer is recorded in one go.
-/

namespace ClusterTriage

/-- What a run has collected. -/
structure Store where
  findings : List Finding := []
  errors : List String := []
  timings : List Timing := []
deriving DecidableEq, Repr, Inhabited

/-- Something that is put into a store by whoever has it in hand. -/
inductive Store.Addition where
  | outcome (name : String) (outcome : Outcome) (elapsed : Option Nat)
  | error (message : String)
  | finding (finding : Finding)

namespace Store

/-- Records the outcome of an analyzer, and how long it took if that is asked for. -/
def record (s : Store) (name : String) (outcome : Outcome) (elapsed : Option Nat) : Store where
  findings := s.findings ++ outcome.findings
  errors := s.errors ++ outcome.errors name
  timings := s.timings ++ elapsed.toList.map fun n => ⟨name, n⟩

/-- Records an error that belongs to no analyzer. -/
def pushError (s : Store) (message : String) : Store :=
  { s with errors := s.errors ++ [message] }

def pushFinding (s : Store) (finding : Finding) : Store :=
  { s with findings := s.findings ++ [finding] }

def add (s : Store) : Addition → Store
  | .outcome name outcome elapsed => s.record name outcome elapsed
  | .error message => s.pushError message
  | .finding finding => s.pushFinding finding

def addAll (s : Store) (additions : List Addition) : Store := additions.foldl add s

def takeFindings (s : Store) : List Finding × Store := (s.findings, { s with findings := [] })

/-- Puts findings back in front of those that came in meanwhile. -/
def restoreFindings (s : Store) (findings : List Finding) : Store :=
  { s with findings := findings ++ s.findings }

end Store
end ClusterTriage
