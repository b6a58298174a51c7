import ClusterTriage.Cluster.Error
import ClusterTriage.Datum.Json.Parser
import ClusterTriage.Datum.Record
import ClusterTriage.Http.Response
import ClusterTriage.Text.FormEncoding

/-!
# Requests to the cluster

A request is a path with a query. The cluster answers with JSON, or refuses with a status object; a
refusal that is no status object is made into one.
-/

namespace ClusterTriage
namespace Cluster

/-! ## 1. Targets -/

def isPathChar (c : Char) : Bool :=
  let n := c.toNat
  (0x21 ≤ n && n != 0x3C && n != 0x3E && n != 0x60) && n != 0x23 && n != 0x3F

def isQueryChar (c : Char) : Bool :=
  let n := c.toNat
  n == 0x21 || (0x24 ≤ n && n ≤ 0x3B) || n == 0x3D || 0x3F ≤ n

/-- What is sent as the target of a request: the text before a fragment, if all its characters may
stand where they stand. -/
def target? (uri : String) : Option String :=
  let cs := uri.toList.takeWhile (· != '#')
  let path := cs.takeWhile (· != '?')
  let query := (cs.dropWhile (· != '?')).drop 1
  if path.all isPathChar && query.all isQueryChar then some (String.ofList cs) else none

/-- The path of a collection, in one namespace or in all. -/
def collection (root plural : String) (space : Option String) : String :=
  match space with
  | some ns => root ++ "/namespaces/" ++ ns ++ "/" ++ plural
  | none => root ++ "/" ++ plural

/-- The path and query that lists a collection. An empty selector selects everything. -/
def listUri (collection : String) (selector : Option String) : String :=
  match selector with
  | some s => collection ++ "?" ++ if s = "" then "" else "&labelSelector=" ++ Text.formEncode s
  | none => collection ++ "?"

/-! ## 2. Answers -/

def Refusal.ofText? (text : String) : Option Refusal := do
  let r ← Record.ofDatum? ["status", "message", "reason", "code"] (← Json.parse text)
  return {
    status := ← r.required "status" Datum.string?
    message := ← r.defaulted "message" "" Datum.string?
    reason := ← r.defaulted "reason" "" Datum.string?
    code := ← r.required "code" (Datum.word? 16) }

def Refusal.ofResponse (status : Nat) (text : String) : Refusal :=
  (Refusal.ofText? text).getD
    { status := Http.describeFault status, message := Text.quoted text
      reason := "Failed to parse error data", code := status }

/-- The text of an answer, unless it is a refusal. -/
def answerText (answer : Except String Http.Response) : Except RequestError String := do
  let r ← answer.mapError .transport
  let text ← (Text.Utf8.decode r.body).mapError .notUtf8
  if Http.isFault r.status then .error (.refused (.ofResponse r.status text)) else .ok text

/-! ## 3. Connections -/

/-- A way to send requests to a cluster and to get its answers, or a text that says what is in the
way. -/
structure Connection (m : Type → Type) where
  send : String → m (Except String Http.Response)

namespace Connection

variable {m : Type → Type} [Monad m]

def getText (c : Connection m) (uri : String) : m (Except RequestError String) := do
  match target? uri with
  | some target => return answerText (← c.send target)
  | none => return .error .invalidAddress

def get {α : Type} (c : Connection m) (decode : Datum → Option α) (uri : String) :
    m (Except RequestError α) := do
  match ← c.getText uri with
  | .error e => return .error e
  | .ok text =>
    match Json.parse text >>= decode with
    | some a => return .ok a
    | none => return .error .undecodable

end Connection
end Cluster
end ClusterTriage
