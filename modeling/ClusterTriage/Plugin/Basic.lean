import ClusterTriage.Datum.Record
import ClusterTriage.Plugin.Error
import ClusterTriage.Text.Blank
import ClusterTriage.Text.Pattern

/-!
# Custom analyzers

An analyzer that runs elsewhere is configured by a name and the address of the process that hosts
it. An entry can only be used if its name is a lowercase subdomain: labels of lowercase letters,
digits and inner hyphens, with single points between them.
-/

namespace ClusterTriage

/-- A custom analyzer as it is configured. -/
structure Plugin where
  name : String
  url : String
  /-- The port at that host, below `2 ^ 16`. -/
  port : Nat
deriving DecidableEq, Repr, Inhabited

namespace Plugin

/-! ## 1. Names -/

/-- Lowercase letters and digits. -/
def isNameChar (c : Char) : Bool := ('a' ≤ c && c ≤ 'z') || ('0' ≤ c && c ≤ '9')

/-- A label: a letter or digit, which more of them and hyphens may follow if one of them is last. -/
def label : Text.Pattern :=
  .seq (.one isNameChar) <| .optional <|
    .seq (.many (.one fun c => c == '-' || isNameChar c)) (.one isNameChar)

/-- A subdomain: one label, and any number of them with a point in front of each. -/
def subdomain : Text.Pattern := .seq label (.many (.seq (.one (· == '.')) label))

def isSubdomain (cs : List Char) : Bool := subdomain.fits cs

/-! ## 2. Usable entries -/

/-- An entry that can be run at all, or what is wrong with it. -/
def validate (p : Plugin) : Except PluginError Unit :=
  if !isSubdomain p.name.toList then .error (.invalidName p.name)
  else if Text.isBlankString p.url then .error (.invalidConnection p.name "url is empty")
  else if p.port = 0 then .error (.invalidConnection p.name "port must be non-zero")
  else .ok ()

/-! ## 3. Entries as data -/

def toDatum (p : Plugin) : Datum :=
  .object [("name", .string p.name),
    ("connection", .object [("url", .string p.url), ("port", .int p.port)])]

def ofDatum? (d : Datum) : Option Plugin := do
  let r ← Record.ofDatum? ["name", "connection"] d
  let name ← r.required "name" Datum.string?
  let c ← r.required "connection" (Record.ofDatum? ["url", "port"])
  return {
    name
    url := ← c.required "url" Datum.string?
    port := ← c.required "port" (Datum.word? 16) }

end Plugin
end ClusterTriage
