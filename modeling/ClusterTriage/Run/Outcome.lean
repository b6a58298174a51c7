import ClusterTriage.Cluster.Error
import ClusterTriage.Finding.Basic
import ClusterTriage.Plugin.Error

/-!
# Outcomes of analyzers

An analyzer brings findings or fails, and it may fail with some findings already made.
-/

namespace ClusterTriage

/-- Why an analyzer did not finish. -/
inductive AnalyzerError where
  | cluster (cause : Cluster.RequestError)
  | noCluster
  | plugin (cause : PluginError)
  /-- The analyzer broke off with a message. -/
  | panicked (message : String)
  | failed (message : String)
  /-- The analyzer failed part way; the findings made so far are worth keeping. -/
  | interrupted (findings : List Finding) (cause : AnalyzerError)
deriving Repr

def AnalyzerError.message : AnalyzerError → String
  | .cluster cause => "Kubernetes API error: " ++ cause.message
  | .noCluster => "No cluster connection available"
  | .plugin cause => cause.message
  | .panicked message => s!"analyzer panicked: {message}"
  | .failed message => message
  | .interrupted _ cause => cause.message

/-- An analyzer that broke off, with the text it left behind if it left one. -/
def AnalyzerError.ofPanic (text : Option String) : AnalyzerError :=
  .panicked (text.getD "unknown panic payload")

abbrev Outcome := Except AnalyzerError (List Finding)

/-- The findings that an outcome leaves, whether the analyzer failed or not. -/
def Outcome.findings : Outcome → List Finding
  | .ok findings => findings
  | .error (.interrupted findings _) => findings
  | .error _ => []

def Outcome.errors (name : String) : Outcome → List String
  | .ok _ => []
  | .error e => [s!"[{name}] " ++ e.message]

end ClusterTriage
