import ClusterTriage.Explanation.Chat

/-!
# Choosing a provider

The provider that was asked for comes before the configured one, and that before a standard one. One
provider needs no service at all: it answers every prompt with the prompt.
-/

namespace ClusterTriage
namespace Provider

/-- The provider where none is named. -/
def standardName : String := "openai"

/-- The name of the provider that repeats prompts. -/
def echoName : String := "noop"

def select (s : ExplanationSettings) (requested : Option String) :
    Except CompletionError Provider :=
  if s.providers.isEmpty then .error .noProviders
  else
    let name := ((Chat.nonEmpty requested).orElse fun _ => Chat.nonEmpty s.defaultProvider).getD
      standardName
    match s.providers.find? (·.name == name) with
    | some p => .ok p
    | none => .error (.notConfigured name)

variable {m : Type → Type} [Monad m]

def echo : Completer m where
  name := echoName
  ask prompt := return .ok ("I am a noop response to the prompt " ++ prompt)
  close := pure ()

/-- What answers prompts for a provider. -/
def completer (p : Provider) (send : Http.Transport m) : Except CompletionError (Completer m) :=
  if p.name = echoName then .ok echo else (Chat.ofProvider p).map (·.completer send)

end Provider
end ClusterTriage
