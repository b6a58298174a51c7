import ClusterTriage.Cluster.Connect
import ClusterTriage.Http.Client
import ClusterTriage.Redaction.Key

/-!
# What surrounds the program

Besides files, the program meets a user with a home directory, a terminal, servers, a clock and a
source of fresh keys. All of it is passed in, so that the same program runs on a machine and in a
test.
-/

namespace ClusterTriage

/-- What the program finds around it. -/
structure Surroundings (m : Type → Type) where
  home : Option String
  userCache : Option String
  /-- The directory in which the program was started. -/
  workingDirectory : Option String
  colour : Bool
  /-- How requests to services are answered. -/
  send : Http.Transport m
  /-- How requests to a cluster are answered. -/
  dial : Cluster.Server → Cluster.Connection m
  /-- A key that has never been used. -/
  freshKey : m Redaction.Key
  /-- The time in nanoseconds, from any start. -/
  now : m Nat

/-- Whether output is coloured, given the environment and whether output goes to a terminal. A
forced colour comes first, then a refused one. -/
def wantsColour (variableOf : String → Option String) (terminal : Bool) : Bool :=
  let on (value : Option String) (default : Bool) : Bool := (value.map (· != "0")).getD default
  if on (variableOf "CLICOLOR_FORCE") false then true
  else
    (variableOf "NO_COLOR").isNone && on (variableOf "CLICOLOR") true && terminal

end ClusterTriage
