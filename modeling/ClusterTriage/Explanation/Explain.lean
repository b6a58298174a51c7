import ClusterTriage.Cache.Basic
import ClusterTriage.Encoding.Base64
import ClusterTriage.Explanation.Completion
import ClusterTriage.Explanation.Template
import ClusterTriage.Finding.Basic
import ClusterTriage.Text.Blank

/-!
# Explaining findings

Findings are explained one after another. The failures of a finding are joined into one text, masked
if that is asked for; the text is looked up in the cache under its fingerprint, and only if nothing
usable is there is the completer asked. Its answer is kept as it came and unmasked for the finding.
The first refusal ends the work, and findings after it stay as they were.
-/

namespace ClusterTriage

/-- Why findings were not all explained. -/
inductive ExplainError where
  | quotaExhausted (provider : String) (cause : CompletionError)
  | failed (provider : String) (cause : CompletionError)
deriving DecidableEq, Repr

namespace ExplainError

/-- The error that a completer's refusal leads to. -/
def classify (provider : String) (cause : CompletionError) : ExplainError :=
  if cause.isQuotaExhausted then .quotaExhausted provider cause else .failed provider cause

def message : ExplainError → String
  | .quotaExhausted provider cause =>
    "exhausted API quota for AI provider " ++ provider ++ ": " ++ cause.message
  | .failed provider cause =>
    "failed while calling AI provider " ++ provider ++ ": " ++ cause.message

end ExplainError

/-- What it takes to explain findings. -/
structure Explainer (m : Type → Type) where
  completer : Completer m
  cache : Cache m
  templates : Templates := .standard
  language : String := "english"
  /-- Whether sensitive names are masked in what is sent away. -/
  anonymize : Bool := false

namespace Explainer

/-! ## 1. What is asked -/

/-- The text that is explained for a list of failures. -/
def inputOf (anonymize : Bool) (failures : List Failure) : String :=
  " ".intercalate (failures.map fun f => if anonymize then f.masked else f.text)

/-- The explanation for a list of failures that an answer amounts to. -/
def detailsOf (anonymize : Bool) (failures : List Failure) (answer : String) : String :=
  if anonymize then Redaction.unmask (Failure.rules failures) answer else answer

/-! ## 2. Payloads of the cache -/

/-- An answer as it is kept. -/
def encodePayload (answer : String) : String :=
  Encoding.Base64.encodeString (Text.Utf8.encode answer)

/-- The answer that a payload holds, unless it is damaged. -/
def decodePayload? (payload : String) : Option String := do
  match Text.Utf8.decode (← Encoding.Base64.decode (Text.trim payload.toList)) with
  | .ok answer => some answer
  | .error _ => none

/-! ## 3. One finding after another -/

variable {m : Type → Type} [Monad m] (x : Explainer m)

def key (input : String) : String := Cache.key x.completer.name x.language input

/-- The answer in the cache, if it holds one that can be used. -/
def cached? (key : String) : m (Option String) := do
  if x.cache.disabled then return none
  if ← x.cache.contains key then
    match ← x.cache.load key with
    | .ok payload => return decodePayload? payload
    | .error _ => return none
  else return none

/-- Keeps an answer. That it could not be kept is no reason to give it up. -/
def keep (key answer : String) : m Unit := do
  if x.cache.disabled then return ()
  let _ ← x.cache.store key (encodePayload answer)
  return ()

/-- The answer to an input, from the cache or from the completer. -/
def answer (kind input : String) : m (Except ExplainError String) := do
  let key := x.key input
  match ← x.cached? key with
  | some answer => return .ok answer
  | none =>
    match ← x.completer.ask (x.templates.render kind x.language input) with
    | .error cause => return .error (.classify x.completer.name cause)
    | .ok answer =>
      x.keep key answer
      return .ok answer

def explain : List Finding → m (Except ExplainError Unit × List Finding)
  | [] => return (.ok (), [])
  | f :: rest => do
    if f.hasFailures then
      match ← x.answer f.kind (inputOf x.anonymize f.failures) with
      | .error e => return (.error e, f :: rest)
      | .ok answer =>
        let f := { f with details := some (detailsOf x.anonymize f.failures answer) }
        let (outcome, rest) ← explain rest
        return (outcome, f :: rest)
    else
      let (outcome, rest) ← explain rest
      return (outcome, f :: rest)

end Explainer
end ClusterTriage
