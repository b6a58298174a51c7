import ClusterTriage.Cache.Basic
import ClusterTriage.Cluster.Connect
import ClusterTriage.Explanation.Explain
import ClusterTriage.Redaction.KeyFile
import ClusterTriage.Selection.Filters
import ClusterTriage.Settings.File

/-!
# What can end the program

Every part of the program has its own causes of failure; here they come together. Errors of single
analyzers are not among them, as they end up in the report.
-/

namespace ClusterTriage

inductive ProgramError where
  | settings (cause : SettingsError)
  | cluster (cause : Cluster.ConnectError)
  | cache (cause : CacheError)
  | key (cause : Redaction.KeyError)
  | completion (cause : CompletionError)
  | explain (cause : ExplainError)
  | filter (cause : FilterError)
deriving DecidableEq, Repr

def ProgramError.message : ProgramError → String
  | .settings cause => "Configuration error: " ++ cause.message
  | .cluster cause => "Cluster error: " ++ cause.message
  | .cache cause => "Cache error: " ++ cause.message
  | .key cause => "Anonymization error: " ++ cause.message
  | .completion cause => cause.message
  | .explain cause => cause.message
  | .filter cause => cause.message

end ClusterTriage
