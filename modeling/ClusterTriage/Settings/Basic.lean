import ClusterTriage.NameMap
import ClusterTriage.Number.Binary32
import ClusterTriage.Plugin.Basic
import ClusterTriage.Run.Executor

/-!
# Settings

What a user configures: how the cluster is reached, which analyzers run, who explains findings, and
where explanations are kept. Every part has a default, so that no settings at all are settings too.
-/

namespace ClusterTriage

open Number

/-- How the cluster is reached; what is not set is found out in the usual way. -/
structure ClusterSettings where
  context : Option String := none
  kubeconfig : Option String := none
deriving DecidableEq, Repr, Inhabited

structure AnalysisSettings where
  /-- The analyzers that run unless others are asked for; all core analyzers if there are none. -/
  activeFilters : List String := []
  maxConcurrency : Int := defaultConcurrency
  pluginConcurrency : Int := defaultConcurrency
  language : String := "english"
  plugins : List Plugin := []
deriving DecidableEq, Repr, Inhabited

/-- A service that completes prompts. -/
structure Provider where
  name : String
  model : Option String := none
  baseUrl : Option String := none
  apiKey : Option String := none
  temperature : Option Float32Bits := none
deriving DecidableEq, Repr, Inhabited

structure ExplanationSettings where
  defaultProvider : Option String := none
  providers : List Provider := []
  /-- Prompt templates by kind of finding. -/
  prompts : NameMap String := .empty
deriving DecidableEq, Repr, Inhabited

/-- Where explanations are kept. -/
inductive CacheKind where
  | file
  | memory
deriving DecidableEq, Repr, Inhabited

structure CacheSettings where
  kind : CacheKind := .file
  /-- The directory of the cache, if it is not the user's. -/
  directory : Option String := none
deriving DecidableEq, Repr, Inhabited

structure Settings where
  cluster : ClusterSettings := {}
  analysis : AnalysisSettings := {}
  explanation : ExplanationSettings := {}
  cache : CacheSettings := {}
deriving DecidableEq, Repr, Inhabited

namespace Provider

/-- Whether two providers are configured alike. A temperature that is no number equals none. -/
def sameAs (p q : Provider) : Bool :=
  { p with temperature := none } == { q with temperature := none } &&
    match p.temperature, q.temperature with
    | some x, some y => x.sameNumber y
    | none, none => true
    | _, _ => false

end Provider

/-- Whether two settings are alike, their temperatures compared as numbers. -/
def Settings.sameAs (s t : Settings) : Bool :=
  let bare (s : Settings) : Settings :=
    { s with explanation := { s.explanation with providers := [] } }
  let ps := s.explanation.providers
  let qs := t.explanation.providers
  bare s == bare t && ps.length == qs.length && (ps.zip qs).all fun (p, q) => p.sameAs q

end ClusterTriage
