import ClusterTriage.Plugin.Basic
import ClusterTriage.Run.Executor

/-!
# Running custom analyzers

Entries that cannot be used are reported before anything runs, and nothing is connected for them.
Each of the others is connected once and brings one finding or one error.
-/

namespace ClusterTriage
namespace Plugin

/-- What is wrong with those entries that cannot be used. -/
def invalid (plugins : List Plugin) : List String :=
  plugins.filterMap fun p =>
    match p.validate with
    | .ok () => none
    | .error e => some e.message

def valid (plugins : List Plugin) : List Plugin :=
  plugins.filter fun p => p.validate.isOk

/-- A finding without a kind is of the kind that bears the analyzer's name. -/
def adopt (p : Plugin) (f : Finding) : Finding :=
  if f.kind = "" then { f with kind := p.name } else f

def outcome (p : Plugin) (reply : Except AnalyzerError Finding) : Outcome :=
  reply.map fun f => [p.adopt f]

end Plugin
end ClusterTriage
