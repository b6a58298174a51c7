/-!
# Base64, the standard alphabet with padding

`encode` writes three bytes as four characters and pads the last group with `=`. `decode` accepts
exactly the written forms: full groups, padding only where it belongs, and zero in the bits that a
padded group leaves over.
-/

namespace ClusterTriage
namespace Encoding
namespace Base64

/-- The 64 digits in order. -/
def alphabet : List Char :=
  "ABCDEFGHIJKLMNOPQRSTUVWXYZabcdefghijklmnopqrstuvwxyz0123456789+/".toList

def digit (n : Nat) : Char := alphabet.getD n 'A'

def value? (c : Char) : Option Nat :=
  if 'A' ≤ c ∧ c ≤ 'Z' then some (c.toNat - 65)
  else if 'a' ≤ c ∧ c ≤ 'z' then some (c.toNat - 71)
  else if '0' ≤ c ∧ c ≤ '9' then some (c.toNat + 4)
  else if c = '+' then some 62
  else if c = '/' then some 63
  else none

/-- The written form of a byte string. -/
def encode : List UInt8 → List Char
  | [] => []
  | [a] =>
    let n := a.toNat * 16
    [digit (n / 64), digit (n % 64), '=', '=']
  | [a, b] =>
    let n := (a.toNat * 256 + b.toNat) * 4
    [digit (n / 4096), digit (n / 64 % 64), digit (n % 64), '=']
  | a :: b :: c :: rest =>
    let n := a.toNat * 65536 + b.toNat * 256 + c.toNat
    digit (n / 262144) :: digit (n / 4096 % 64) :: digit (n / 64 % 64) :: digit (n % 64) ::
      encode rest

/-- The bytes of the last group, whose padding is still on it. -/
def decodeLast (a b c d : Char) : Option (List UInt8) :=
  match value? a, value? b, value? c, value? d with
  | some x, some y, some z, some w =>
    let n := x * 262144 + y * 4096 + z * 64 + w
    some [UInt8.ofNat (n / 65536), UInt8.ofNat (n / 256 % 256), UInt8.ofNat (n % 256)]
  | some x, some y, some z, none =>
    let n := x * 4096 + y * 64 + z
    if d = '=' ∧ n % 4 = 0 then some [UInt8.ofNat (n / 1024), UInt8.ofNat (n / 4 % 256)] else none
  | some x, some y, none, none =>
    let n := x * 64 + y
    if c = '=' ∧ d = '=' ∧ n % 16 = 0 then some [UInt8.ofNat (n / 16)] else none
  | _, _, _, _ => none

/-- The bytes of a written form, or `none` if the text is not one. -/
def decode : List Char → Option (List UInt8)
  | [] => some []
  | [a, b, c, d] => decodeLast a b c d
  | a :: b :: c :: d :: rest => do
    let x ← value? a
    let y ← value? b
    let z ← value? c
    let w ← value? d
    let n := x * 262144 + y * 4096 + z * 64 + w
    let tail ← decode rest
    some (UInt8.ofNat (n / 65536) :: UInt8.ofNat (n / 256 % 256) :: UInt8.ofNat (n % 256) :: tail)
  | _ => none

def encodeString (bytes : List UInt8) : String := String.ofList (encode bytes)

end Base64
end Encoding
end ClusterTriage
