import ClusterTriage.Cluster.Schema.Moment
import ClusterTriage.Datum.Basic

/-!
# Schemas

What a cluster serves has a known shape. A schema says which fields an object may have and what
they hold; everything in a known field has to conform, everything else is ignored, and a field
that is null is as good as absent.
-/

namespace ClusterTriage
namespace Cluster

/-- The shape of a value. -/
inductive Schema where
  | text
  | flag
  | int32
  | int64
  /-- A text that denotes a moment. -/
  | time
  /-- A number or a text. -/
  | intOrText
  /-- Any value that can be read. -/
  | anything
  /-- One text, which may be absent but not null. -/
  | constant (s : String)
  | list (items : Schema)
  /-- An object whose members all have one shape. -/
  | map (values : Schema)
  | object (fields : List (String × Schema))
deriving Inhabited

namespace Schema

/-! ## 1. Groups of fields -/

def fieldsOf (shape : Schema) (names : List String) : List (String × Schema) :=
  names.map (·, shape)

def texts : List String → List (String × Schema) := fieldsOf .text

def flags : List String → List (String × Schema) := fieldsOf .flag

def int32s : List String → List (String × Schema) := fieldsOf .int32

def int64s : List String → List (String × Schema) := fieldsOf .int64

def times : List String → List (String × Schema) := fieldsOf .time

def textLists : List String → List (String × Schema) := fieldsOf (.list .text)

def textMaps : List String → List (String × Schema) := fieldsOf (.map .text)

/-! ## 2. Conformance -/

/-- Whether null may stand for the absence of such a value. -/
def optional : Schema → Bool
  | .constant _ => false
  | _ => true

/-- Whether a value without parts conforms. -/
def accepts (s : Schema) (d : Datum) : Bool :=
  match s with
  | .text => d.string?.isSome
  | .flag => match d with
    | .bool _ => true
    | _ => false
  | .int32 => (d.intIn? (-0x80000000) 0x7FFFFFFF).isSome
  | .int64 => d.int64?.isSome
  | .time => (d.string?.map Moment.isMoment).getD false
  | .intOrText => d.string?.isSome || (d.intIn? (-0x80000000) 0x7FFFFFFF).isSome
  | .anything => d.readable
  | .constant s => d.string? == some s
  | _ => false

mutual

/-- Whether a value has a shape. -/
def conforms (s : Schema) : Datum → Bool
  | .array items =>
    match s with
    | .list t => allConform t items
    | .anything => (Datum.array items).readable
    | _ => false
  | .object members =>
    match s with
    | .map t => membersConform t members
    | .object fields => fieldsConform fields members
    | .anything => (Datum.object members).readable
    | _ => false
  | d => s.accepts d

def allConform (s : Schema) : List Datum → Bool
  | [] => true
  | d :: rest => conforms s d && allConform s rest

def membersConform (s : Schema) : List (String × Datum) → Bool
  | [] => true
  | (_, d) :: rest => conforms s d && membersConform s rest

/-- Whether those members that are fields have the shapes of the fields. -/
def fieldsConform (fields : List (String × Schema)) : List (String × Datum) → Bool
  | [] => true
  | (name, .null) :: rest =>
    ((fields.lookup name).map optional).getD true && fieldsConform fields rest
  | (name, d) :: rest =>
    (match fields.lookup name with
      | some s => conforms s d
      | none => true) && fieldsConform fields rest

end

end Schema
end Cluster
end ClusterTriage
