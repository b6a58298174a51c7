import ClusterTriage.Http.Response
import ClusterTriage.Url.Parser

/-!
# Sending requests

A request is posted as JSON. Before it goes out, its address and its headers have to be fit for it;
what happens then is up to a transport, of which only is known whether an answer came.
-/

namespace ClusterTriage
namespace Http

/-- A request with a JSON body. -/
structure Request where
  url : Url
  authorization : Option String := none
  body : String
deriving DecidableEq, Repr

/-- How the program names itself to servers. -/
def agent : String := "kube-doctor/0.1.0"

/-- A way to get requests answered, which may fail. -/
abbrev Transport (m : Type → Type) := Request → m (Option Response)

/-- Whether a character may stand in a header. -/
def isHeaderChar (c : Char) : Bool := c == '\t' || (0x20 ≤ c.toNat && c.toNat != 0x7F)

/-- The address as it is shown in messages. -/
def shown (u : Url) : String := "url (" ++ u.withoutUserInfo.text ++ ")"

def undecodable (u : Url) : String := "error decoding response body for " ++ shown u

def request (url : Except UrlError Url) (bearer : Option String) (body : String) :
    Except String Request :=
  match url with
  | .error _ => .error "builder error"
  | .ok url =>
    if !url.hasHost then .error ("builder error for " ++ shown url)
    else if (bearer.getD "").toList.all isHeaderChar then
      if url.scheme = "http" ∨ url.scheme = "https" then
        .ok { url, authorization := bearer.map ("Bearer " ++ ·), body }
      else .error ("builder error for " ++ shown url)
    else .error "builder error"

/-- Posts a body, and says why there is no answer if there is none. -/
def post {m : Type → Type} [Monad m] (send : Transport m) (url : Except UrlError Url)
    (bearer : Option String) (body : String) : m (Except String Response) := do
  match request url bearer body with
  | .error reason => return .error reason
  | .ok r =>
    match ← send r with
    | some answer => return .ok answer
    | none => return .error ("error sending request for " ++ shown r.url)

end Http
end ClusterTriage
