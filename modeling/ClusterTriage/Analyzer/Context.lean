import ClusterTriage.Cluster.Object
import ClusterTriage.Cluster.Request
import ClusterTriage.Redaction.Key
import ClusterTriage.Run.Outcome

/-!
# What analyzers work with

A connection to the cluster, if there is one; which part of the cluster is looked at; what the
cluster documents about itself; and the key of the masks. Looking for objects is the same for
every kind.
-/

namespace ClusterTriage

/-- The context in which analyzers run. -/
structure Context (m : Type → Type) where
  connection : Option (Cluster.Connection m) := none
  /-- The namespace to look at; all of them where none is set. -/
  space : Option String := none
  /-- The labels that objects have to bear. -/
  selector : Option String := none
  /-- The cluster's documentation of its own interface. -/
  documentation : Option Datum := none
  key : Redaction.Key := .zero

namespace Context

variable {m : Type → Type} [Monad m] (x : Context m)

/-! ## 1. Looking for objects -/

/-- The namespace that is set and not empty. -/
def scope : Option String := x.space.filter (· ≠ "")

def ask {α : Type} (request : Cluster.Connection m → m (Except Cluster.RequestError α)) :
    m (Except AnalyzerError α) := do
  match x.connection with
  | none => return .error .noCluster
  | some c => return (← request c).mapError .cluster

def listIn {α : Type} (k : Cluster.Kind α) (space selector : Option String) :
    m (Except AnalyzerError (List α)) :=
  x.ask fun c =>
    c.get k.listOfDatum? (Cluster.listUri (Cluster.collection k.root k.plural space) selector)

/-- The objects of a kind that this context is about. -/
def list {α : Type} (k : Cluster.Kind α) : m (Except AnalyzerError (List α)) :=
  x.listIn k x.scope x.selector

/-- One object by namespace and name, or nothing if the cluster knows of none. -/
def find? {α : Type} (k : Cluster.Kind α) (space name : String) :
    m (Except AnalyzerError (Option α)) :=
  x.ask fun c => do
    if name = "" then return .error .emptyName
    match ← c.get k.ofDatum? (Cluster.collection k.root k.plural (some space) ++ "/" ++ name) with
    | .ok a => return .ok (some a)
    | .error (.refused r) =>
      if r.reason = "NotFound" then return .ok none else return .error (.refused r)
    | .error e => return .error e

/-! ## 2. Documentation -/

def fieldDocumentation (definition field : String) : Option String := do
  let d ← x.documentation
  let d ← d.field? "definitions"
  let d ← d.field? definition
  let d ← d.field? "properties"
  let d ← d.field? field
  textOf d
where
  textOf (d : Datum) : Option String := d.field? "description" >>= Datum.string?

/-! ## 3. Diagnostic text -/

/-- A field as diagnostic text shows it: a word as it is, or a text in quotes if there is one. -/
inductive Shown where
  | word (s : String)
  | text (s : Option String)

def Shown.narrow : Shown → String
  | .word s => s
  | .text s => Text.quotedOption s

def Shown.wide : Shown → String
  | .text (some s) => "Some(\n        " ++ Text.quoted s ++ ",\n    )"
  | field => field.narrow

/-- The fields that diagnostic text shows. Of the documentation it only shows whether there is any,
and of the key nothing. -/
def shown : List (String × Shown) :=
  [("connected", .word (toString x.connection.isSome)), ("namespace", .text x.space),
    ("label_selector", .text x.selector),
    ("openapi_schema", .word (toString x.documentation.isSome)),
    ("mask_key", .word Redaction.Key.described)]

def describe : String :=
  let fields := x.shown.map fun (name, field) => name ++ ": " ++ field.narrow
  "AnalyzerConfig \x7b " ++ ", ".intercalate fields ++ " \x7d"

/-- The context over several lines, each field on its own. -/
def describeLines : String :=
  let fields := x.shown.map fun (name, field) => "    " ++ name ++ ": " ++ field.wide ++ ",\n"
  "AnalyzerConfig \x7b\n" ++ String.join fields ++ "\x7d"

end Context

/-- How an analyzer in line shows in diagnostic text. -/
def Job.describe (name : String) : String := "NamedTask \x7b name: " ++ Text.quoted name ++ " \x7d"

end ClusterTriage
