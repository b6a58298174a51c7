import ClusterTriage.Redaction.Basic

/-!
# Findings

A finding is what an analyzer has to say about one object of the cluster: its failures, each with
the names in it that must not leave the process, and later an explanation.
-/

namespace ClusterTriage

/-- One problem of an object. -/
structure Failure where
  text : String
  /-- The names in the text that are masked when it is sent away. -/
  sensitive : Redaction.Rules := []
  /-- What the cluster documents about the field at fault. -/
  documentation : Option String := none
deriving DecidableEq, Repr, Inhabited

/-- The problems of one object. -/
structure Finding where
  kind : String := ""
  /-- The name of the object, with its namespace in front if it has one. -/
  name : String := ""
  failures : List Failure := []
  details : Option String := none
  /-- The object that owns this one. -/
  parent : Option String := none
deriving DecidableEq, Repr, Inhabited

/-- How long an analyzer took, in nanoseconds. -/
structure Timing where
  analyzer : String
  nanoseconds : Nat
deriving DecidableEq, Repr, Inhabited

namespace Finding

def hasFailures (f : Finding) : Bool := !f.failures.isEmpty

end Finding

def Failure.rules (failures : List Failure) : Redaction.Rules :=
  failures.flatMap Failure.sensitive

/-- The text of a failure with its own names masked. -/
def Failure.masked (f : Failure) : String := Redaction.mask f.sensitive f.text

end ClusterTriage
