import ClusterTriage.Datum.Basic

/-!
# Records

A record with known fields is written as an object, or as an array of its fields in order. As an
object it may hold further members, which are ignored, but no field twice. As an array it may be cut
short before fields that have a default, and may not be longer than there are fields.
-/

namespace ClusterTriage

/-- The fields of a record as they were written. -/
structure Record where
  /-- The value of each field that was written, by name. -/
  values : List (String × Datum)
  /-- Whether the record was written as an array. -/
  positional : Bool
deriving Inhabited

namespace Record

/-- The members of an object that are fields, or `none` if a field comes twice. -/
def select? (fields : List String) : List (String × Datum) → Option (List (String × Datum))
  | [] => some []
  | (name, d) :: rest => do
    let tail ← select? fields rest
    if name ∈ fields then
      if tail.any (·.1 == name) then none else some ((name, d) :: tail)
    else some tail

/-- Reads a record with the given fields. -/
def ofDatum? (fields : List String) : Datum → Option Record
  | .object members => (select? fields members).map (⟨·, false⟩)
  | .array items =>
    if items.length ≤ fields.length then some ⟨fields.zip items, true⟩ else none
  | _ => none

variable {α : Type}

/-- A field that has to be written. -/
def required (r : Record) (name : String) (decode : Datum → Option α) : Option α :=
  r.values.lookup name >>= decode

def defaulted (r : Record) (name : String) (default : α) (decode : Datum → Option α) : Option α :=
  match r.values.lookup name with
  | some d => decode d
  | none => some default

/-- The value of a field that may be null. -/
def nullable (decode : Datum → Option α) : Datum → Option (Option α)
  | .null => some none
  | d => (decode d).map some

/-- A field that may be left out of an object, but not of an array. -/
def optional (r : Record) (name : String) (decode : Datum → Option α) : Option (Option α) :=
  match r.values.lookup name with
  | some d => nullable decode d
  | none => if r.positional then none else some none

/-- A field that may be left out of an object and of an array. -/
def optionalDefaulted (r : Record) (name : String) (decode : Datum → Option α) :
    Option (Option α) :=
  r.defaulted name none (nullable decode)

end Record

namespace Datum

/-- A map from names to decoded values. Of two members of one name the later one counts. -/
def mapOf? {α : Type} (decode : Datum → Option α) : Datum → Option (List (String × α))
  | object members => members.mapM fun (name, d) => (decode d).map (name, ·)
  | _ => none

/-- A case without data: its name, or an object whose only member has that name and holds nothing.
What holds nothing depends on the format. -/
def caseName? (holdsNothing : Datum → Bool) : Datum → Option String
  | string s => some s
  | object [(name, d)] => if holdsNothing d then some name else none
  | _ => none

def isNull : Datum → Bool
  | null => true
  | _ => false

/-- Nothing, as it has to be written without a null: an array or an object that is empty. -/
def isEmpty : Datum → Bool
  | array [] => true
  | object [] => true
  | _ => false

end Datum
end ClusterTriage
