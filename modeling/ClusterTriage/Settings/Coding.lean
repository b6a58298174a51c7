import ClusterTriage.Settings.Basic
import ClusterTriage.Finding.Coding

/-!
# Settings as data

One shape serves every format in which settings are written. Formats differ in one point only: how a
case without data may show that it holds nothing.
-/

namespace ClusterTriage

namespace ClusterSettings

def toDatum (s : ClusterSettings) : Datum :=
  .object (Datum.optionalMember "context" s.context ++
    Datum.optionalMember "kubeconfig" s.kubeconfig)

def ofDatum? (d : Datum) : Option ClusterSettings := do
  let r ← Record.ofDatum? ["context", "kubeconfig"] d
  return ⟨← r.optional "context" Datum.string?, ← r.optional "kubeconfig" Datum.string?⟩

end ClusterSettings

/-- A member that is written only if the list has items. -/
def Datum.listMember (name : String) (items : List Datum) : List (String × Datum) :=
  if items.isEmpty then [] else [(name, .array items)]

namespace AnalysisSettings

def toDatum (s : AnalysisSettings) : Datum :=
  .object <|
    Datum.listMember "active_filters" (s.activeFilters.map .string) ++
    [("max_concurrency", .int s.maxConcurrency), ("plugin_concurrency", .int s.pluginConcurrency),
      ("language", .string s.language)] ++
    Datum.listMember "custom_analyzers" (s.plugins.map Plugin.toDatum)

def ofDatum? (d : Datum) : Option AnalysisSettings := do
  let r ← Record.ofDatum?
    ["active_filters", "max_concurrency", "plugin_concurrency", "language", "custom_analyzers"] d
  return {
    activeFilters := ← r.defaulted "active_filters" [] (Datum.arrayOf? Datum.string?)
    maxConcurrency := ← r.defaulted "max_concurrency" (defaultConcurrency : Int) Datum.int64?
    pluginConcurrency := ← r.defaulted "plugin_concurrency" (defaultConcurrency : Int) Datum.int64?
    language := ← r.defaulted "language" "english" Datum.string?
    plugins := ← r.defaulted "custom_analyzers" [] (Datum.arrayOf? Plugin.ofDatum?) }

end AnalysisSettings

namespace Provider

def toDatum (p : Provider) : Datum :=
  .object <|
    [("name", .string p.name)] ++
    Datum.optionalMember "model" p.model ++
    Datum.optionalMember "base_url" p.baseUrl ++
    Datum.optionalMember "api_key" p.apiKey ++
    (match p.temperature with
      | some x => [("temperature", .single x)]
      | none => [])

def ofDatum? (d : Datum) : Option Provider := do
  let r ← Record.ofDatum? ["name", "model", "base_url", "api_key", "temperature"] d
  return {
    name := ← r.required "name" Datum.string?
    model := ← r.optional "model" Datum.string?
    baseUrl := ← r.optional "base_url" Datum.string?
    apiKey := ← r.optional "api_key" Datum.string?
    temperature := ← r.optional "temperature" Datum.single? }

end Provider

namespace ExplanationSettings

def toDatum (s : ExplanationSettings) : Datum :=
  .object <|
    Datum.optionalMember "default_provider" s.defaultProvider ++
    Datum.listMember "providers" (s.providers.map Provider.toDatum) ++
    (if s.prompts.isEmpty then []
      else [("prompts", .object (s.prompts.entries.map fun (kind, t) => (kind, .string t)))])

def ofDatum? (d : Datum) : Option ExplanationSettings := do
  let r ← Record.ofDatum? ["default_provider", "providers", "prompts"] d
  return {
    defaultProvider := ← r.optional "default_provider" Datum.string?
    providers := ← r.defaulted "providers" [] (Datum.arrayOf? Provider.ofDatum?)
    prompts := .ofList (← r.defaulted "prompts" [] (Datum.mapOf? Datum.string?)) }

end ExplanationSettings

def CacheKind.name : CacheKind → String
  | .file => "file"
  | .memory => "memory"

def CacheKind.ofName? : String → Option CacheKind
  | "file" => some .file
  | "memory" => some .memory
  | _ => none

namespace CacheSettings

def toDatum (s : CacheSettings) : Datum :=
  .object (("kind", .string s.kind.name) :: Datum.optionalMember "directory" s.directory)

def ofDatum? (holdsNothing : Datum → Bool) (d : Datum) : Option CacheSettings := do
  let r ← Record.ofDatum? ["kind", "directory"] d
  return {
    kind := ← r.defaulted "kind" .file fun d => d.caseName? holdsNothing >>= CacheKind.ofName?
    directory := ← r.optional "directory" Datum.string? }

end CacheSettings

namespace Settings

def toDatum (s : Settings) : Datum :=
  .object [("kubernetes", s.cluster.toDatum), ("analysis", s.analysis.toDatum),
    ("ai", s.explanation.toDatum), ("cache", s.cache.toDatum)]

def ofDatum? (holdsNothing : Datum → Bool) (d : Datum) : Option Settings := do
  let r ← Record.ofDatum? ["kubernetes", "analysis", "ai", "cache"] d
  return {
    cluster := ← r.defaulted "kubernetes" {} ClusterSettings.ofDatum?
    analysis := ← r.defaulted "analysis" {} AnalysisSettings.ofDatum?
    explanation := ← r.defaulted "ai" {} ExplanationSettings.ofDatum?
    cache := ← r.defaulted "cache" {} (CacheSettings.ofDatum? holdsNothing) }

end Settings
end ClusterTriage
