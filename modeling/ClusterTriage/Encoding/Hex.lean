/-!
# Hexadecimal

Two lowercase digits a byte, most significant digit first.
-/

namespace ClusterTriage
namespace Encoding
namespace Hex

def digit (n : Nat) : Char := "0123456789abcdef".toList.getD n '0'

/-- The number of a digit of either case. -/
def value? (c : Char) : Option Nat :=
  if '0' ≤ c ∧ c ≤ '9' then some (c.toNat - 48)
  else if 'a' ≤ c ∧ c ≤ 'f' then some (c.toNat - 87)
  else if 'A' ≤ c ∧ c ≤ 'F' then some (c.toNat - 55)
  else none

def encode : List UInt8 → List Char
  | [] => []
  | b :: rest => digit (b.toNat / 16) :: digit (b.toNat % 16) :: encode rest

/-- The bytes of a string of digits, or `none` at an odd digit or another character. -/
def decode : List Char → Option (List UInt8)
  | [] => some []
  | a :: b :: rest => do
    let x ← value? a
    let y ← value? b
    let tail ← decode rest
    some (UInt8.ofNat (x * 16 + y) :: tail)
  | [_] => none

/-- The digits of a number, at least one, without leading zeros. -/
def ofNat (n : Nat) : String := String.ofList (Nat.toDigits 16 n)

def toNat? : List Char → Option Nat
  | [] => none
  | cs => cs.foldlM (fun n c => (value? c).map (n * 16 + ·)) 0

end Hex
end Encoding
end ClusterTriage
