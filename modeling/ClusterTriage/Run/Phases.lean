import ClusterTriage.Explanation.Explain
import ClusterTriage.Plugin.Run
import ClusterTriage.Run.Timeline
import ClusterTriage.Selection.Basic

/-!
# The phases of a run

A run has one store and goes through phases: the selected analyzers run, then the custom
analyzers, then the findings are explained. Phases can come in any order and more than once.
However a run ends, its completer is closed.
-/

namespace ClusterTriage

/-- What an analyzer brought, and how long it took in nanoseconds. -/
structure Trial (α : Type) where
  result : α
  duration : Nat := 0

/-- What to run, and how. -/
structure RunOptions where
  filters : List String := []
  activeFilters : List String := []
  maxConcurrency : Int := defaultConcurrency
  pluginConcurrency : Int := defaultConcurrency
  plugins : List Plugin := []
  timed : Bool := false
deriving DecidableEq, Repr

namespace Run

variable {m : Type → Type} [Monad m]

/-- Runs named analyzers and says what each brought. -/
def jobs (analyzers : List (String × m (Trial Outcome))) : m (List Job) :=
  analyzers.mapM fun (name, analyzer) => do
    let t ← analyzer
    return { name, outcome := t.result, duration := t.duration }

/-- A store with errors that belong to no analyzer. -/
def report (errors : List String) (s : Store) : Store := errors.foldl Store.pushError s

def analysis (o : RunOptions) (r : Registry (m (Trial Outcome))) (s : Store) :
    m Executor.Timeline := do
  let selection := Selection.ofFilters o.filters o.activeFilters r
  let jobs ← jobs selection.analyzers
  return Executor.timeline o.maxConcurrency o.timed jobs (report selection.errors s)

def custom (o : RunOptions) (connect : Plugin → m (Trial (Except AnalyzerError Finding)))
    (s : Store) : m Executor.Timeline := do
  let jobs ← jobs <| (Plugin.valid o.plugins).map fun p =>
    (p.name, do
      let t ← connect p
      return { result := p.outcome t.result, duration := t.duration })
  return Executor.timeline o.pluginConcurrency o.timed jobs (report (Plugin.invalid o.plugins) s)

/-- The phase of explanations. The findings are out of the store while they are explained, and
others may go on putting things into it. The explainer does not see the store, so it makes no
difference when they do. Without an explainer nothing happens. -/
def explainAmid (additions : List Store.Addition) (explainer : Option (Explainer m)) (s : Store) :
    m (Except ExplainError Unit × Store) := do
  match explainer with
  | none => return (.ok (), s.addAll additions)
  | some x =>
    let (findings, s) := s.takeFindings
    let (outcome, findings) ← x.explain findings
    return (outcome, (s.addAll additions).restoreFindings findings)

/-- The phase of explanations with nobody else at the store. -/
def explain (explainer : Option (Explainer m)) (s : Store) : m (Except ExplainError Unit × Store) :=
  explainAmid [] explainer s

/-- The end of a run, whatever came of it: an explainer's completer is closed. -/
def finish (explainer : Option (Explainer m)) : m Unit := do
  match explainer with
  | some x => x.completer.close
  | none => return ()

/-- Who explains, or nobody. -/
def provider (explainer : Option (Explainer m)) : String :=
  match explainer with
  | some x => x.completer.name
  | none => ""

end Run
end ClusterTriage
