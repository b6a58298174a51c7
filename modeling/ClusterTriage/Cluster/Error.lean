import ClusterTriage.Text.Quoted
import ClusterTriage.Text.Utf8

/-!
# What can go wrong with a request to the cluster

The cluster answers a refused request with a status object; everything else that can go wrong lies
between the program and the cluster.
-/

namespace ClusterTriage
namespace Cluster

/-- The status with which the cluster refuses a request. -/
structure Refusal where
  status : String
  message : String
  reason : String
  code : Nat
deriving DecidableEq, Repr

/-- The fields of a refusal, quoted. -/
def Refusal.describe (r : Refusal) : String :=
  "ErrorResponse \x7b status: " ++ Text.quoted r.status ++ ", message: " ++ Text.quoted r.message ++
    ", reason: " ++ Text.quoted r.reason ++ ", code: " ++ toString r.code ++ " \x7d"

/-- Why a request did not bring an answer that can be used. -/
inductive RequestError where
  | refused (refusal : Refusal)
  /-- The request or the answer did not get through. -/
  | transport (text : String)
  | notUtf8 (cause : Text.Utf8Error)
  /-- The answer is not what was asked for. -/
  | undecodable
  | emptyName
  /-- The address of the request holds a character that no address may hold. -/
  | invalidAddress
deriving DecidableEq, Repr

def RequestError.message : RequestError → String
  | .refused r => "ApiError: " ++ r.message ++ ": " ++ r.reason ++ " (" ++ r.describe ++ ")"
  | .transport text => "ServiceError: " ++ text
  | .notUtf8 e => "UTF-8 Error: " ++ e.message
  | .undecodable => "Error deserializing response"
  | .emptyName =>
    "Failed to build request: failed to validate request: A non-empty name is required"
  | .invalidAddress => "Failed to build request: failed to build request: invalid uri character"

end Cluster
end ClusterTriage
