import ClusterTriage.Text.Substitution

/-!
# Completion clients

A completion client answers prompts. Whatever can keep it from answering is a cause of type
`CompletionError`; a cause that speaks of an exhausted quota is told apart by its sentence.
-/

namespace ClusterTriage

/-- Why a prompt was not answered. -/
inductive CompletionError where
  /-- The request or its answer did not get through. -/
  | http (reason : String)
  /-- The service refused. -/
  | refused (status : Nat) (message : String)
  | undecodable (reason : String)
  | noChoices
  | noProviders
  | notConfigured (provider : String)
  | unsupported (provider : String)
deriving DecidableEq, Repr

namespace CompletionError

def message : CompletionError → String
  | .http reason => "HTTP request failed: " ++ reason
  | .refused status text =>
    "error, status code: " ++ toString status ++ ", message: " ++ text
  | .undecodable reason => "failed to parse completion response: " ++ reason
  | .noChoices => "completion response contained no choices"
  | .noProviders => "AI provider not specified in configuration"
  | .notConfigured provider => "AI provider " ++ provider ++ " not specified in configuration"
  | .unsupported provider => "AI provider " ++ provider ++ " is not supported without a base_url"

/-- The words by which an exhausted quota is known. -/
def quotaMark : String := "status code: 429"

def isQuotaExhausted (e : CompletionError) : Bool := Text.containsString e.message quotaMark

end CompletionError

/-- Something that answers prompts under a name, and holds connections until it is closed. -/
structure Completer (m : Type → Type) where
  name : String
  ask : String → m (Except CompletionError String)
  close : m Unit

end ClusterTriage
