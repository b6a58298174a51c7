import ClusterTriage.Encoding.Hex

/-!
# Hexadecimal reads back

> **No two byte strings have the same digits** (`encode_injective`), since a decoder finds the bytes
> again (`decode_encode`).
-/

namespace ClusterTriage
namespace Encoding
namespace Hex

theorem value?_digit {n : Nat} (h : n < 16) : value? (digit n) = some n := by
  have hdigits : ∀ n < 16, value? (digit n) = some n := by decide +kernel
  exact hdigits n h

theorem decode_encode (bytes : List UInt8) : decode (encode bytes) = some bytes := by
  induction bytes with
  | nil => rfl
  | cons b rest ih =>
    have hb : b.toNat < 256 := b.toNat_lt
    have hhigh : value? (digit (b.toNat / 16)) = some (b.toNat / 16) := value?_digit (by omega)
    have hlow : value? (digit (b.toNat % 16)) = some (b.toNat % 16) := value?_digit (by omega)
    have hsum : b.toNat / 16 * 16 + b.toNat % 16 = b.toNat := by omega
    simp only [encode, decode, hhigh, hlow, ih, Option.bind_eq_bind, Option.bind_some, hsum,
      UInt8.ofNat_toNat]

theorem encode_injective : Function.Injective encode := by
  intro a b h
  have hdecoded := congrArg decode h
  rw [decode_encode, decode_encode] at hdecoded
  exact Option.some.inj hdecoded

/-! The digits are lowercase, two for each byte. -/

/-- The digits that are written. -/
def digits : List Char := "0123456789abcdef".toList

theorem digit_mem (n : Nat) : digit n ∈ digits := by
  have hdigits : ∀ n < 16, digit n ∈ digits := by decide +kernel
  by_cases h : n < 16
  · exact hdigits n h
  · have hbeyond : digits.length ≤ n := Nat.le_of_not_lt h
    have hzero : digit n = '0' := by
      show digits.getD n '0' = '0'
      rw [List.getD_eq_getElem?_getD, List.getElem?_eq_none hbeyond, Option.getD_none]
    rw [hzero]
    decide

theorem mem_digits_of_mem_encode {bytes : List UInt8} {c : Char} (h : c ∈ encode bytes) :
    c ∈ digits := by
  induction bytes with
  | nil => cases h
  | cons b rest ih =>
    rcases List.mem_cons.mp h with rfl | h
    · exact digit_mem _
    rcases List.mem_cons.mp h with rfl | h
    · exact digit_mem _
    · exact ih h

theorem length_encode (bytes : List UInt8) : (encode bytes).length = 2 * bytes.length := by
  induction bytes with
  | nil => rfl
  | cons b rest ih =>
    rw [encode, List.length_cons, List.length_cons, List.length_cons, ih]
    omega

end Hex
end Encoding
end ClusterTriage
