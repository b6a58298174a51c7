import ClusterTriage.Encoding.Base64
import Mathlib.Data.List.Basic

/-!
# Base64 loses nothing

Reading a written form gives the bytes back (`decode_encode`), and nothing but a written form is read
(`decode_eq_some_iff`). The work is in one group of three bytes: as a number below `2 ^ 24` it is cut
into bytes on one side and into sextets on the other, and both cuts put the same number together again.
A group of one or two bytes is the same with zeros appended, which is what the padding stands for.
-/

namespace ClusterTriage
namespace Encoding
namespace Base64

/-! ## 1. Digits -/

/-- A digit is read as the number it was written for. -/
theorem value?_digit {n : Nat} (h : n < 64) : value? (digit n) = some n := by
  have hall : ∀ m < 64, value? (digit m) = some m := by decide +kernel
  exact hall n h

theorem value?_pad : value? '=' = none := by decide

/-- The bytes of the number that three bytes make up are those bytes. -/
theorem ofNat_group (a b c : UInt8) :
    UInt8.ofNat ((a.toNat * 65536 + b.toNat * 256 + c.toNat) / 65536) = a ∧
      UInt8.ofNat ((a.toNat * 65536 + b.toNat * 256 + c.toNat) / 256 % 256) = b ∧
      UInt8.ofNat ((a.toNat * 65536 + b.toNat * 256 + c.toNat) % 256) = c := by
  have ha := a.toNat_lt
  have hb := b.toNat_lt
  have hc := c.toNat_lt
  have h₁ : (a.toNat * 65536 + b.toNat * 256 + c.toNat) / 65536 = a.toNat := by omega
  have h₂ : (a.toNat * 65536 + b.toNat * 256 + c.toNat) / 256 % 256 = b.toNat := by omega
  have h₃ : (a.toNat * 65536 + b.toNat * 256 + c.toNat) % 256 = c.toNat := by omega
  rw [h₁, h₂, h₃]
  exact ⟨UInt8.ofNat_toNat, UInt8.ofNat_toNat, UInt8.ofNat_toNat⟩

/-! ## 2. Groups -/

/-- A full group is read the same whether or not more groups follow. -/
theorem decode_group {p q r s : Char} {x y z w : Nat} (hp : value? p = some x)
    (hq : value? q = some y) (hr : value? r = some z) (hs : value? s = some w)
    (tail : List Char) :
    decode (p :: q :: r :: s :: tail) = (decode tail).map fun bytes =>
      UInt8.ofNat ((x * 262144 + y * 4096 + z * 64 + w) / 65536) ::
        UInt8.ofNat ((x * 262144 + y * 4096 + z * 64 + w) / 256 % 256) ::
          UInt8.ofNat ((x * 262144 + y * 4096 + z * 64 + w) % 256) :: bytes := by
  cases tail with
  | nil => simp [decode, decodeLast, hp, hq, hr, hs]
  | cons t ts =>
    simp only [decode, hp, hq, hr, hs, Option.bind_eq_bind, Option.bind_some]
    cases decode (t :: ts) with
    | none => rfl
    | some bytes => rfl

theorem decode_encode_one (a : UInt8) : decode (encode [a]) = some [a] := by
  have ha := a.toNat_lt
  have hn : (a.toNat * 16) / 64 * 64 + (a.toNat * 16) % 64 = a.toNat * 16 := by omega
  -- the bits that padding stands for are zero, or the decoder would refuse
  have h₁ : a.toNat * 16 % 16 = 0 := by omega
  have h₂ : a.toNat * 16 / 16 = a.toNat := by omega
  simp only [encode, decode, decodeLast, value?_digit (show a.toNat * 16 / 64 < 64 by omega),
    value?_digit (show a.toNat * 16 % 64 < 64 by omega), value?_pad, hn, h₁, h₂]
  simp

theorem decode_encode_two (a b : UInt8) : decode (encode [a, b]) = some [a, b] := by
  have ha := a.toNat_lt
  have hb := b.toNat_lt
  let n := (a.toNat * 256 + b.toNat) * 4
  have hn : n / 4096 * 4096 + n / 64 % 64 * 64 + n % 64 = n := by omega
  have h₀ : n % 4 = 0 := by omega
  have h₁ : n / 1024 = a.toNat := by omega
  have h₂ : n / 4 % 256 = b.toNat := by omega
  show decode [digit (n / 4096), digit (n / 64 % 64), digit (n % 64), '='] = _
  simp only [decode, decodeLast, value?_digit (show n / 4096 < 64 by omega),
    value?_digit (show n / 64 % 64 < 64 by omega), value?_digit (show n % 64 < 64 by omega),
    value?_pad, hn, h₀, h₁, h₂]
  simp

/-! ## 3. The round trip -/

/-- **Reading gives back what was written.** -/
theorem decode_encode (bytes : List UInt8) : decode (encode bytes) = some bytes := by
  induction bytes using encode.induct with
  | case1 => rfl
  | case2 a => exact decode_encode_one a
  | case3 a b => exact decode_encode_two a b
  | case4 a b c rest ih =>
    have ha := a.toNat_lt
    have hb := b.toNat_lt
    have hc := c.toNat_lt
    let n := a.toNat * 65536 + b.toNat * 256 + c.toNat
    have hn : n / 262144 * 262144 + n / 4096 % 64 * 4096 + n / 64 % 64 * 64 + n % 64 = n := by omega
    obtain ⟨h₁, h₂, h₃⟩ := ofNat_group a b c
    show decode (digit (n / 262144) :: digit (n / 4096 % 64) :: digit (n / 64 % 64) ::
      digit (n % 64) :: encode rest) = _
    rw [decode_group (value?_digit (by omega)) (value?_digit (by omega)) (value?_digit (by omega))
      (value?_digit (by omega)), ih, hn]
    show some (UInt8.ofNat (n / 65536) :: UInt8.ofNat (n / 256 % 256) :: UInt8.ofNat (n % 256) ::
      rest) = _
    rw [h₁, h₂, h₃]

/-- A written form is made of digits and padding. -/
theorem mem_encode {bytes : List UInt8} {c : Char} (h : c ∈ encode bytes) :
    (∃ n < 64, c = digit n) ∨ c = '=' := by
  induction bytes using encode.induct with
  | case1 => simp [encode] at h
  | case2 a =>
    have ha := a.toNat_lt
    simp only [encode, List.mem_cons, List.not_mem_nil, or_false] at h
    rcases h with h | h | h | h
    · exact .inl ⟨_, by omega, h⟩
    · exact .inl ⟨_, by omega, h⟩
    · exact .inr h
    · exact .inr h
  | case3 a b =>
    have ha := a.toNat_lt
    have hb := b.toNat_lt
    simp only [encode, List.mem_cons, List.not_mem_nil, or_false] at h
    rcases h with h | h | h | h
    · exact .inl ⟨_, by omega, h⟩
    · exact .inl ⟨_, by omega, h⟩
    · exact .inl ⟨_, by omega, h⟩
    · exact .inr h
  | case4 a b c' rest ih =>
    have ha := a.toNat_lt
    have hb := b.toNat_lt
    have hc := c'.toNat_lt
    simp only [encode, List.mem_cons] at h
    rcases h with h | h | h | h | h
    · exact .inl ⟨_, by omega, h⟩
    · exact .inl ⟨_, by omega, h⟩
    · exact .inl ⟨_, by omega, h⟩
    · exact .inl ⟨_, by omega, h⟩
    · exact ih h

/-! ## 4. Only written forms are read -/

/-- A digit is written for the number that it is read as. -/
theorem digit_of_value? {c : Char} {n : Nat} (h : value? c = some n) : n < 64 ∧ digit n = c := by
  have hall : ∀ m < 128, ∀ k ∈ value? (Char.ofNat m), k < 64 ∧ digit k = Char.ofNat m := by
    decide +kernel
  -- every digit is a character of ASCII
  have hascii : c.toNat < 128 := by
    unfold value? at h
    have hle : ∀ d : Char, c ≤ d → d.toNat < 128 → c.toNat < 128 := fun d hd hlt =>
      Nat.lt_of_le_of_lt (Char.le_def.mp hd) hlt
    split at h
    · exact hle 'Z' (‹_ ∧ _›).2 (by decide)
    split at h
    · exact hle 'z' (‹_ ∧ _›).2 (by decide)
    split at h
    · exact hle '9' (‹_ ∧ _›).2 (by decide)
    split at h
    · subst c; decide
    split at h
    · subst c; decide
    · cases h
  have hc := hall c.toNat hascii n
  rw [Char.ofNat_toNat] at hc
  exact hc h

theorem toNat_ofNat_of_lt {n : Nat} (h : n < 256) : (UInt8.ofNat n).toNat = n :=
  UInt8.toNat_ofNat_of_lt' h

/-- Four digits are the written form of the three bytes of their number. -/
theorem encode_group {a b c d : Char} {x y z w : Nat} (ha : value? a = some x) (hb : value? b = some y)
    (hc : value? c = some z) (hd : value? d = some w) (tail : List UInt8) :
    encode (UInt8.ofNat ((x * 262144 + y * 4096 + z * 64 + w) / 65536) ::
        UInt8.ofNat ((x * 262144 + y * 4096 + z * 64 + w) / 256 % 256) ::
          UInt8.ofNat ((x * 262144 + y * 4096 + z * 64 + w) % 256) :: tail) =
      a :: b :: c :: d :: encode tail := by
  have hsum (n : Nat) : n / 65536 * 65536 + n / 256 % 256 * 256 + n % 256 = n := by omega
  obtain ⟨hx, rfl⟩ := digit_of_value? ha
  obtain ⟨hy, rfl⟩ := digit_of_value? hb
  obtain ⟨hz, rfl⟩ := digit_of_value? hc
  obtain ⟨hw, rfl⟩ := digit_of_value? hd
  generalize hn : x * 262144 + y * 4096 + z * 64 + w = n
  have h₁ : (UInt8.ofNat (n / 65536)).toNat = n / 65536 := toNat_ofNat_of_lt (by omega)
  have h₂ : (UInt8.ofNat (n / 256 % 256)).toNat = n / 256 % 256 := toNat_ofNat_of_lt (by omega)
  have h₃ : (UInt8.ofNat (n % 256)).toNat = n % 256 := toNat_ofNat_of_lt (by omega)
  have hdx : n / 262144 = x := by omega
  have hdy : n / 4096 % 64 = y := by omega
  have hdz : n / 64 % 64 = z := by omega
  have hdw : n % 64 = w := by omega
  rw [encode, h₁, h₂, h₃, hsum, hdx, hdy, hdz, hdw]

theorem encode_of_decodeLast {a b c d : Char} {bytes : List UInt8}
    (h : decodeLast a b c d = some bytes) : [a, b, c, d] = encode bytes := by
  unfold decodeLast at h
  split at h
  · rename_i x y z w ha hb hc hd
    obtain rfl := Option.some.inj h
    exact (encode_group ha hb hc hd []).symm
  · rename_i x y z ha hb hc hd
    dsimp only at h
    split at h
    · rename_i hpad
      obtain ⟨rfl, hzero⟩ := hpad
      obtain rfl := Option.some.inj h
      obtain ⟨hx, rfl⟩ := digit_of_value? ha
      obtain ⟨hy, rfl⟩ := digit_of_value? hb
      obtain ⟨hz, rfl⟩ := digit_of_value? hc
      generalize hn : x * 4096 + y * 64 + z = n at hzero
      have h₁ : (UInt8.ofNat (n / 1024)).toNat = n / 1024 := toNat_ofNat_of_lt (by omega)
      have h₂ : (UInt8.ofNat (n / 4 % 256)).toNat = n / 4 % 256 := toNat_ofNat_of_lt (by omega)
      have hsum : (n / 1024 * 256 + n / 4 % 256) * 4 = n := by omega
      have hdx : n / 4096 = x := by omega
      have hdy : n / 64 % 64 = y := by omega
      have hdz : n % 64 = z := by omega
      rw [encode, h₁, h₂, hsum, hdx, hdy, hdz]
    · cases h
  · rename_i x y ha hb hc hd
    dsimp only at h
    split at h
    · rename_i hpad
      obtain ⟨rfl, rfl, hzero⟩ := hpad
      obtain rfl := Option.some.inj h
      obtain ⟨hx, rfl⟩ := digit_of_value? ha
      obtain ⟨hy, rfl⟩ := digit_of_value? hb
      generalize hn : x * 64 + y = n at hzero
      have h₁ : (UInt8.ofNat (n / 16)).toNat = n / 16 := toNat_ofNat_of_lt (by omega)
      have hsum : n / 16 * 16 = n := by omega
      have hdx : n / 64 = x := by omega
      have hdy : n % 64 = y := by omega
      rw [encode, h₁, hsum, hdx, hdy]
    · cases h
  · cases h

/-- **Nothing but a written form is read.** -/
theorem encode_of_decode {cs : List Char} {bytes : List UInt8} (h : decode cs = some bytes) :
    cs = encode bytes := by
  induction cs using decode.induct generalizing bytes with
  | case1 =>
    obtain rfl := Option.some.inj h
    rfl
  | case2 a b c d => exact encode_of_decodeLast h
  | case3 a b c d rest hrest ih =>
    rw [decode] at h
    · simp only [Option.bind_eq_bind, Option.bind_eq_some_iff, Option.some.injEq] at h
      obtain ⟨x, ha, y, hb, z, hc, w, hd, tail, htail, rfl⟩ := h
      rw [ih htail]
      exact (encode_group ha hb hc hd tail).symm
    · exact hrest
  | case4 cs h₁ h₂ h₃ =>
    rw [decode] at h
    · cases h
    · exact h₁
    · exact h₂
    · exact h₃

/-- **The texts that are read are the written forms**, each as the bytes it was written for. -/
theorem decode_eq_some_iff {cs : List Char} {bytes : List UInt8} :
    decode cs = some bytes ↔ cs = encode bytes :=
  ⟨encode_of_decode, fun h => h ▸ decode_encode bytes⟩

end Base64
end Encoding
end ClusterTriage
