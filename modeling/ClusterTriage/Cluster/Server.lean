import ClusterTriage.Cluster.Request
import ClusterTriage.Number.Digits
import ClusterTriage.Text.Substitution

/-!
# Addresses of clusters

The address of a cluster has a scheme, an authority, a path and a query. A text without a scheme
can be an authority, or else a path. Addresses are kept as they were written; only the scheme's
case does not matter, and a fragment is left out.
-/

namespace ClusterTriage
namespace Cluster

inductive ServerError where
  | empty
  | tooLong
  | invalidCharacter
  | invalidAuthority
  | invalidFormat
  | schemeTooLong
deriving DecidableEq, Repr

def ServerError.message : ServerError → String
  | .empty => "empty string"
  | .tooLong => "uri too long"
  | .invalidCharacter => "invalid uri character"
  | .invalidAuthority => "invalid authority"
  | .invalidFormat => "invalid format"
  | .schemeTooLong => "scheme too long"

structure Server where
  scheme : Option String := none
  authority : String := ""
  path : String := ""
  query : Option String := none
deriving DecidableEq, Repr

namespace Server

/-- The written form of an address. An address with a scheme has a path. -/
def text (s : Server) : String :=
  let front := match s.scheme with
    | some scheme => scheme ++ "://"
    | none => ""
  let path := if s.path = "" && s.scheme.isSome then "/" else s.path
  let query := match s.query with
    | some q => "?" ++ q
    | none => ""
  front ++ s.authority ++ path ++ query

/-! ## 1. Schemes -/

def isSchemeChar (c : Char) : Bool := c.isAlphanum || c == '+' || c == '-' || c == '.'

def maxScheme : Nat := 64

/-- Takes the start of a text that is known in lower case. -/
def dropFolded? (start : String) (cs : List Char) : Option (List Char) :=
  if (cs.take start.length).map Char.toLower = start.toList then some (cs.drop start.length)
  else none

/-- The scheme of a text, and what follows it. -/
def splitScheme (cs : List Char) : Except ServerError (Option String × List Char) :=
  if let some rest := dropFolded? "http://" cs then .ok (some "http", rest)
  else if let some rest := dropFolded? "https://" cs then .ok (some "https", rest)
  else
    let name := cs.takeWhile isSchemeChar
    match cs.dropWhile isSchemeChar with
    | ':' :: '/' :: '/' :: rest =>
      if maxScheme < name.length then .error .schemeTooLong
      else .ok (some (String.ofList name), rest)
    | _ => .ok (none, cs)

/-! ## 2. Authorities -/

def isAuthorityChar (c : Char) : Bool :=
  c.isAlphanum || "!$&'()*+,-.:;=@[]_~".toList.contains c

/-- What is known of an authority from its start. -/
structure Scan where
  colons : Nat := 0
  opened : Bool := false
  closed : Bool := false
  percent : Bool := false
  /-- Whether the last character was the end of a user's name. -/
  bareUser : Bool := false

def Scan.step (s : Scan) (c : Char) : Except ServerError Scan :=
  let s := { s with bareUser := false }
  match c with
  | ':' =>
    if 8 ≤ s.colons then .error .invalidAuthority else .ok { s with colons := s.colons + 1 }
  | '[' =>
    if s.percent || s.opened then .error .invalidAuthority else .ok { s with opened := true }
  | ']' =>
    if !s.opened || s.closed then .error .invalidAuthority
    else .ok { s with closed := true, colons := 0, percent := false }
  | '@' => .ok { s with colons := 0, percent := false, bareUser := true }
  | '%' => .ok { s with percent := true }
  | c => if isAuthorityChar c then .ok s else .error .invalidCharacter

/-- Whether an authority can end here. -/
def Scan.finished (s : Scan) : Bool :=
  s.opened == s.closed && s.colons ≤ 1 && !s.bareUser && !s.percent

/-- Whether a character ends an authority. -/
def endsAuthority (c : Char) : Bool := c == '/' || c == '?' || c == '#'

def splitAuthority (cs : List Char) : Except ServerError (List Char × List Char) := do
  let front := cs.takeWhile (!endsAuthority ·)
  let s ← front.foldlM Scan.step {}
  if s.finished then .ok (front, cs.dropWhile (!endsAuthority ·)) else .error .invalidAuthority

/-! ## 3. Addresses -/

def pathAndQuery (cs : List Char) : Except ServerError (String × Option String) :=
  match target? (String.ofList cs) with
  | none => .error .invalidCharacter
  | some target =>
    let cs := target.toList
    let path := String.ofList (cs.takeWhile (· != '?'))
    match cs.dropWhile (· != '?') with
    | _ :: query => .ok (path, some (String.ofList query))
    | [] => .ok (path, none)

def parse (text : String) : Except ServerError Server :=
  if text = "" then .error .empty
  else if 65534 < text.utf8ByteSize then .error .tooLong
  else if text.toList.head? = some '/' then do
    let (path, query) ← pathAndQuery text.toList
    return { path, query }
  else do
    let (scheme, rest) ← splitScheme text.toList
    let (authority, rest) ← splitAuthority rest
    match scheme with
    | none =>
      if rest.isEmpty then return { authority := String.ofList authority }
      else .error .invalidFormat
    | some _ =>
      if authority.isEmpty then .error .invalidFormat
      else
        let (path, query) ← pathAndQuery rest
        return { scheme, authority := String.ofList authority, path, query }

/-! ## 4. Reaching a server -/

/-- The host and the port of an address without a secure channel. -/
def plainEndpoint? (s : Server) : Option (String × Nat) :=
  if s.scheme = some "http" then
    let host := (Text.splitString '@' s.authority).getLast?.getD ""
    match Text.splitString ':' host with
    | [name] => some (name, 80)
    | [name, ""] => some (name, 80)
    | [name, port] => (Number.naturalOf? port.toList).map (name, ·)
    | _ => none
  else none

/-- The path and query under which a server answers a request of the cluster's interface. -/
def targetOf (s : Server) (uri : String) : String :=
  String.ofList (s.path.toList.reverse.dropWhile (· == '/')).reverse ++ uri

end Server
end Cluster
end ClusterTriage
