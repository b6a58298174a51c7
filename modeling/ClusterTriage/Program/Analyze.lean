import ClusterTriage.Analyzer.Builtin
import ClusterTriage.Cache.Configured
import ClusterTriage.CommandLine.Command
import ClusterTriage.Explanation.Provider
import ClusterTriage.Plugin.Remote
import ClusterTriage.Program.Error
import ClusterTriage.Program.Surroundings
import ClusterTriage.Run.Phases

/-!
# Analysing a cluster

Flags come before settings. Whatever can fail for a reason of configuration is done before the
cluster is asked anything: first the explainer, then the way to the cluster, then the key of the
masks.
-/

namespace ClusterTriage
namespace Program

open CommandLine (AnalyzeFlags)

/-! ## 1. Flags over settings -/

def runOptions (f : AnalyzeFlags) (s : Settings) : RunOptions where
  filters := f.filters
  activeFilters := s.analysis.activeFilters
  maxConcurrency := f.maxConcurrency.getD s.analysis.maxConcurrency
  pluginConcurrency := s.analysis.pluginConcurrency
  plugins := s.analysis.plugins
  timed := f.withStats

def language (f : AnalyzeFlags) (s : Settings) : String := f.language.getD s.analysis.language

variable {m : Type → Type} [Monad m] [MonadFiles m] [MonadStateOf MemoryCache m]

def explainer (w : Surroundings m) (f : AnalyzeFlags) (s : Settings) :
    Except ProgramError (Explainer m) := do
  let provider ← (Provider.select s.explanation f.backend).mapError .completion
  let completer ← (provider.completer w.send).mapError .completion
  let cache ← (Cache.ofSettings s.cache f.noCache w.userCache).mapError .cache
  return {
    completer, cache
    templates := .withOverrides s.explanation.prompts
    language := language f s
    anonymize := f.anonymize }

/-- The key of the masks: that of the installation where masks leave the program, else a fresh
one. -/
def maskKey (w : Surroundings m) (f : AnalyzeFlags) (s : Settings) :
    m (Except ProgramError Redaction.Key) := do
  let fresh ← w.freshKey
  if f.anonymize then
    match Redaction.KeyFile.path s.cache.directory w.userCache with
    | .error e => return .error (.key e)
    | .ok path => return (← Redaction.KeyFile.loadOrCreate path fresh).mapError .key
  else return .ok fresh

def connect (w : Surroundings m) (f : AnalyzeFlags) (s : Settings) :
    m (Except ProgramError (Cluster.Connection m)) := do
  let found ← Cluster.locate (f.context.or s.cluster.context)
    (f.kubeconfig.or s.cluster.kubeconfig) w.home
  return (found.map w.dial).mapError .cluster

/-- The cluster's documentation, if it is asked for. -/
def documentation (f : AnalyzeFlags) (c : Cluster.Connection m) :
    m (Except ProgramError (Option Datum)) := do
  if f.withDoc then
    return ((← c.documentation).map some).mapError .cluster
  else return .ok none

/-! ## 2. The run -/

/-- Runs something and takes its time. -/
def timed {α : Type} (w : Surroundings m) (x : m α) : m (Trial α) := do
  let start ← w.now
  let result ← x
  let stop ← w.now
  return { result, duration := stop - start }

def analyzers (w : Surroundings m) (x : Context m) : Registry (m (Trial Outcome)) :=
  (Analyzer.builtin x).map (timed w)

/-- Runs analyzers and custom analyzers and explains what they find. -/
def examine (w : Surroundings m) (o : RunOptions) (x : Context m) (e : Option (Explainer m)) :
    m (Except ProgramError Report) := do
  let t ← Run.analysis o (analyzers w x) {}
  let t ← Run.custom o (fun p => timed w (p.ask w.send)) t.state.store
  let (outcome, store) ← Run.explain e t.state.store
  Run.finish e
  return (outcome.map fun _ => .ofStore (Run.provider e) store).mapError .explain

/-- Everything that a run needs, found in the order in which it can fail. -/
def prepare (w : Surroundings m) (f : AnalyzeFlags) (s : Settings) :
    m (Except ProgramError (Context m × Option (Explainer m))) := do
  match if f.explain then (explainer w f s).map some else .ok none with
  | .error e => return .error e
  | .ok explainer =>
    match ← connect w f s with
    | .error e => return .error e
    | .ok connection =>
      match ← documentation f connection with
      | .error e => return .error e
      | .ok documentation =>
        match ← maskKey w f s with
        | .error e => return .error e
        | .ok key =>
          let context : Context m :=
            { connection := some connection, space := f.space, selector := f.selector
              documentation, key }
          return .ok (context, explainer)

/-- Analyses the cluster and writes the report. -/
def analyze (w : Surroundings m) (s : Settings) (f : AnalyzeFlags) :
    m (Except ProgramError String) := do
  match ← prepare w f s with
  | .error e => return .error e
  | .ok (context, explainer) =>
    let report ← examine w (runOptions f s) context explainer
    return report.map fun r => r.render w.colour f.output ++ "\n"

end Program
end ClusterTriage
