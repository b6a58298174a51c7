import ClusterTriage.Url.Address
import ClusterTriage.Url.Percent

/-!
# Addresses of services

The parts of an address, and its written form. The usual schemes have a port that need not be
written.
-/

namespace ClusterTriage

/-- Why a text is no address. -/
inductive UrlError where
  | emptyHost
  | invalidDomain
  | invalidDomainCharacter
  | invalidPort
  | invalidIpv4
  | invalidIpv6
  | relative
deriving DecidableEq, Repr

def UrlError.message : UrlError → String
  | .emptyHost => "empty host"
  | .invalidDomain => "invalid international domain name"
  | .invalidDomainCharacter => "invalid domain character"
  | .invalidPort => "invalid port number"
  | .invalidIpv4 => "invalid IPv4 address"
  | .invalidIpv6 => "invalid IPv6 address"
  | .relative => "relative URL without a base"

namespace Url

inductive Host where
  | name (s : String)
  | ipv4 (n : Nat)
  | ipv6 (words : List Nat)
deriving DecidableEq, Repr

def Host.text : Host → String
  | .name s => s
  | .ipv4 n => ipv4Text n
  | .ipv6 words => "[" ++ ipv6Text words ++ "]"

/-- A path is a sequence of names, or a text without any structure. -/
inductive UrlPath where
  | names (l : List String)
  | unstructured (s : String)
deriving DecidableEq, Repr

def UrlPath.text : UrlPath → String
  | .names l => String.join (l.map ("/" ++ ·))
  | .unstructured s => s

end Url

/-- An address. -/
structure Url where
  scheme : String
  username : String := ""
  password : String := ""
  host : Option Url.Host := none
  /-- The port, if it is not the scheme's own. -/
  port : Option Nat := none
  path : Url.UrlPath := .names []
  query : Option String := none
  fragment : Option String := none
deriving DecidableEq, Repr

namespace Url

/-- The port of a scheme, and that it is one of the usual schemes. -/
def defaultPort? : String → Option Nat
  | "http" => some 80
  | "https" => some 443
  | "ws" => some 80
  | "wss" => some 443
  | "ftp" => some 21
  | _ => none

/-- Whether a scheme is one of the usual ones, or that of files. -/
def isSpecial (scheme : String) : Bool := (defaultPort? scheme).isSome || scheme == "file"

/-- Name and password before the host. -/
def userInfo (u : Url) : String :=
  if u.username = "" && u.password = "" then ""
  else u.username ++ (if u.password = "" then "" else ":" ++ u.password) ++ "@"

def text (u : Url) : String :=
  let front := match u.host with
    | some h =>
      "//" ++ u.userInfo ++ h.text ++ (u.port.map fun n => ":" ++ toString n).getD ""
    | none =>
      if u.scheme = "file" then "//"
      else match u.path with
        | .names ("" :: _ :: _) => "/."
        | _ => ""
  u.scheme ++ ":" ++ front ++ u.path.text ++ (u.query.map ("?" ++ ·)).getD "" ++
    (u.fragment.map ("#" ++ ·)).getD ""

/-- Whether the address leads to a host that has a name or a number. -/
def hasHost (u : Url) : Bool := u.host.isSome

def withPort? (u : Url) (port : Nat) : Option Url :=
  if u.host.isNone || u.host == some (.name "") || u.scheme == "file" then none
  else some { u with port := if defaultPort? u.scheme = some port then none else some port }

def withoutUserInfo (u : Url) : Url := { u with username := "", password := "" }

end Url
end ClusterTriage
