import ClusterTriage.Datum.Json.Parser
import ClusterTriage.Datum.Json.Printer
import ClusterTriage.Datum.Record
import ClusterTriage.Explanation.Completion
import ClusterTriage.Http.Client
import ClusterTriage.Settings.Basic

/-!
# Chat services

Most providers speak one protocol: a prompt is posted as the only message of a chat, and the first
choice of the answer is the completion. A provider that is not known by name needs an address.
-/

namespace ClusterTriage

open Number

/-- What it takes to ask a chat service. -/
structure Chat where
  name : String
  /-- The address below which the service lies, without slashes at its end. -/
  base : String
  apiKey : Option String := none
  model : String
  temperature : Float32Bits
deriving DecidableEq, Repr

namespace Chat

/-- The addresses of the providers known by name. -/
def knownBase? : String → Option String
  | "openai" => some "https://api.openai.com/v1"
  | "localai" => some "http://localhost:8080/v1"
  | "ollama" => some "http://localhost:11434/v1"
  | _ => none

def defaultModel : String := "gpt-4o-mini"

/-- The temperature where none is configured: seven tenths. -/
def defaultTemperature : Float32Bits := .ofDecimal ⟨false, 7, -1⟩

def nonEmpty (s : Option String) : Option String := s.filter (· ≠ "")

def trimSlashes (s : String) : String :=
  String.ofList (s.toList.reverse.dropWhile (· == '/')).reverse

def ofProvider (p : Provider) : Except CompletionError Chat :=
  match (nonEmpty p.baseUrl).orElse fun _ => knownBase? p.name with
  | none => .error (.unsupported p.name)
  | some base =>
    .ok { name := p.name, base := trimSlashes base, apiKey := nonEmpty p.apiKey
          model := (nonEmpty p.model).getD defaultModel
          temperature := p.temperature.getD defaultTemperature }

def endpoint (c : Chat) : String := c.base ++ "/chat/completions"

def question (c : Chat) (prompt : String) : Datum :=
  .object [("model", .string c.model),
    ("messages", .array [.object [("role", .string "user"), ("content", .string prompt)]]),
    ("temperature", .single c.temperature)]

/-- The texts of the choices that an answer offers. -/
def choices? (d : Datum) : Option (List String) := do
  let r ← Record.ofDatum? ["choices"] d
  r.required "choices" <| Datum.arrayOf? fun d => do
    let choice ← Record.ofDatum? ["message"] d
    let message ← choice.required "message" (Record.ofDatum? ["content"])
    message.defaulted "content" "" Datum.string?

def completion (url : Url) (body : List UInt8) : Except CompletionError String :=
  let choices := match Text.Utf8.decode body with
    | .ok text => Json.parse text >>= choices?
    | .error _ => none
  match choices with
  | none => .error (.undecodable (Http.undecodable url))
  | some [] => .error .noChoices
  | some (text :: _) => .ok text

variable {m : Type → Type} [Monad m]

def ask (c : Chat) (send : Http.Transport m) (prompt : String) :
    m (Except CompletionError String) := do
  let url := Url.parse c.endpoint
  match ← Http.post send url c.apiKey (Json.compact (c.question prompt)) with
  | .error reason => return .error (.http reason)
  | .ok r =>
    if Http.isSuccess r.status then
      match url with
      | .ok url => return completion url r.body
      | .error _ => return .error .noChoices
    else return .error (.refused r.status (Text.Utf8.decodeLossy r.body))

/-- The chat service as something that answers prompts. -/
def completer (c : Chat) (send : Http.Transport m) : Completer m where
  name := c.name
  ask := c.ask send
  close := pure ()

end Chat
end ClusterTriage
