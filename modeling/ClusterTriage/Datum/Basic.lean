import ClusterTriage.Number.Binary32

/-!
# Data

The values that JSON and TOML texts denote. Both formats are read into one type, so that a
configuration or a result is decoded by one set of rules, whatever it was written in.
-/

namespace ClusterTriage

open Number

/-- A value of a data format. Objects keep their members in the order and the number in which they
were written. -/
inductive Datum where
  | null
  | bool (b : Bool)
  | int (n : Int)
  /-- A number written with a point or an exponent, or too long for a machine integer. -/
  | decimal (d : Decimal)
  /-- A single precision number, also where it is infinite or none. -/
  | single (x : Float32Bits)
  | string (s : String)
  | array (items : List Datum)
  | object (members : List (String × Datum))
  /-- A value that may be skipped but not read: it holds half a character, or a number beyond all
  bounds, or lies too deep. -/
  | unreadable
deriving Inhabited, Repr

namespace Datum

def string? : Datum → Option String
  | string s => some s
  | _ => none

def intIn? (lo hi : Int) : Datum → Option Int
  | int n => if lo ≤ n ∧ n ≤ hi then some n else none
  | _ => none

def int64? : Datum → Option Int := intIn? (-0x8000000000000000) 0x7FFFFFFFFFFFFFFF

/-- A natural number below `2 ^ bits`. -/
def word? (bits : Nat) (d : Datum) : Option Nat :=
  (d.intIn? 0 (Int.ofNat (Nat.pow 2 bits) - 1)).map Int.toNat

def single? : Datum → Option Float32Bits
  | int n => some (.ofInt n)
  | decimal d => some (.ofDecimal d)
  | single x => some x
  | _ => none

/-- The items of an array, each decoded. -/
def arrayOf? {α : Type} (decode : Datum → Option α) : Datum → Option (List α)
  | array items => items.mapM decode
  | _ => none

/-- The first member of a name. -/
def member? (name : String) : Datum → Option Datum
  | object members => members.lookup name
  | _ => none

/-- The last member of a name, unless it is null. -/
def field? (name : String) : Datum → Option Datum
  | object members =>
    match members.reverse.lookup name with
    | some null => none
    | d => d
  | _ => none

/-- Whether the value and all its parts can be read. -/
def readable : Datum → Bool
  | unreadable => false
  | array items => readableItems items
  | object members => readableMembers members
  | _ => true
where
  readableItems : List Datum → Bool
    | [] => true
    | d :: rest => d.readable && readableItems rest
  readableMembers : List (String × Datum) → Bool
    | [] => true
    | (_, d) :: rest => d.readable && readableMembers rest

end Datum
end ClusterTriage
