import ClusterTriage.Datum.Json.Parser
import ClusterTriage.Finding.Coding
import ClusterTriage.Http.Client
import ClusterTriage.Plugin.Basic
import ClusterTriage.Run.Outcome
import ClusterTriage.Text.Substitution

/-!
# Reaching custom analyzers

A custom analyzer is asked by posting an empty object to a fixed path at its address, with its
port. It answers with one finding.
-/

namespace ClusterTriage
namespace Plugin

/-- The path at which custom analyzers are asked. -/
def path : String := "/v1/analyze"

/-- The address with a scheme. -/
def base (p : Plugin) : String :=
  if Text.containsString p.url "://" then p.url else "http://" ++ p.url

def endpoint (p : Plugin) : Except PluginError Url :=
  match Url.parse p.base with
  | .error e => .error (.noClient p.name e.message)
  | .ok u =>
    match u.withPort? p.port with
    | none => .error (.noClient p.name ("cannot set port on " ++ p.base))
    | some u => .ok (u.withPath path)

def finding? (body : List UInt8) : Option Finding := do
  match Text.Utf8.decode body with
  | .error _ => none
  | .ok text =>
    let r ← Record.ofDatum? ["result"] (← Json.parse text)
    r.required "result" Finding.ofDatum?

variable {m : Type → Type} [Monad m]

def askAt (send : Http.Transport m) (u : Url) : m (Except PluginError Finding) := do
  match ← Http.post send (.ok u) none "\x7b\x7d" with
  | .error reason => return .error (.http reason)
  | .ok r =>
    if Http.isSuccess r.status then
      match finding? r.body with
      | some f => return .ok f
      | none => return .error (.undecodable (Http.undecodable u))
    else return .error (.status r.status (Text.Utf8.decodeLossy r.body))

/-- Connects to a custom analyzer and asks it. -/
def ask (p : Plugin) (send : Http.Transport m) : m (Except AnalyzerError Finding) := do
  match p.endpoint with
  | .error e => return .error (.plugin e)
  | .ok u => return (← askAt send u).mapError .plugin

end Plugin
end ClusterTriage
