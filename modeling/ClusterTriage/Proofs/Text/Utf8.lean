import ClusterTriage.Text.Utf8
import Mathlib.Data.List.Basic

/-!
# UTF-8 loses nothing

The bytes of a text are cut into exactly its characters again, so the strict reading gives the text
back (`decode_encode`). A character is written as one to four bytes, and the reader has a case for
each; what has to be seen in every case is that the second byte lies in the range that belongs to the
first. Overlong forms and surrogates are what those ranges exclude, and a character is neither: its
number is too large for the shorter form, and it is a scalar value.
-/

namespace ClusterTriage
namespace Text
namespace Utf8

open String (utf8EncodeChar)

/-! ## 1. Bytes of a text -/

theorem toList_loop (bytes : ByteArray) (i : Nat) (seen : List UInt8) :
    ByteArray.toList.loop bytes i seen = seen.reverse ++ bytes.data.toList.drop i := by
  fun_induction ByteArray.toList.loop bytes i seen with
  | case1 i seen hi ih =>
    have hlen : i < bytes.data.toList.length := by simpa using hi
    have hget : bytes.get! i = bytes.data.toList[i] := getElem!_pos bytes.data i hi
    rw [ih, List.drop_eq_getElem_cons hlen, hget, List.reverse_cons, List.append_assoc,
      List.singleton_append]
  | case2 i seen hi =>
    rw [List.drop_eq_nil_of_le (by simpa using Nat.le_of_not_lt hi), List.append_nil]

/-- The bytes of a text are those of its characters, one after another. -/
theorem encode_eq (s : String) : encode s = s.toList.flatMap utf8EncodeChar := by
  have hbytes : s.toUTF8 = (s.toList.flatMap utf8EncodeChar).toByteArray :=
    (String.utf8Encode_toList (b := s)).symm
  rw [encode, hbytes, ByteArray.toList, toList_loop, List.toList_data_toByteArray]
  rfl

/-! ## 2. Bytes of a character -/

theorem toNat_ofNat {n : Nat} (h : n < 256) : (UInt8.ofNat n).toNat = n := by
  rw [UInt8.toNat_ofNat']
  exact Nat.mod_eq_of_lt h

/-- A byte in the expected range is taken up. -/
theorem continuation_succ {seen left acc n : Nat} {lo hi : UInt8} {rest : List UInt8}
    (hn : n < 64) (hlo : lo.toNat ≤ n + 0x80) (hhi : n + 0x80 ≤ hi.toNat) :
    continuation seen (left + 1) lo hi acc (UInt8.ofNat (n + 0x80) :: rest) =
      continuation (seen + 1) left 0x80 0xBF (acc * 64 + n) rest := by
  have hb : (UInt8.ofNat (n + 0x80)).toNat = n + 0x80 := toNat_ofNat (by omega)
  have hrange : lo ≤ UInt8.ofNat (n + 0x80) ∧ UInt8.ofNat (n + 0x80) ≤ hi := by
    simp only [UInt8.le_iff_toNat_le, hb]
    exact ⟨hlo, hhi⟩
  have hmod : (n + 0x80) % 64 = n := by omega
  rw [continuation, if_pos hrange, hb, hmod]

/-- What a leading byte announces, by its number. -/
theorem first_of_leading {n left : Nat} {lo hi : UInt8} {rest : List UInt8} (hn : n < 256)
    (h : leading? (UInt8.ofNat n) = some (left, lo, hi)) (hbig : 0x80 ≤ n) :
    first (UInt8.ofNat n) rest =
      continuation 1 left lo hi (leadingBits (UInt8.ofNat n) left) rest := by
  have hb : ¬ UInt8.ofNat n < 0x80 := by
    rw [UInt8.lt_iff_toNat_lt, toNat_ofNat hn]
    simpa using hbig
  rw [first, if_neg hb, h]

theorem leading?_eq {n : Nat} (hn : n < 256) : leading? (UInt8.ofNat n) =
    if 0xC2 ≤ n ∧ n ≤ 0xDF then some (1, 0x80, 0xBF)
    else if n = 0xE0 then some (2, 0xA0, 0xBF)
    else if n = 0xED then some (2, 0x80, 0x9F)
    else if 0xE1 ≤ n ∧ n ≤ 0xEF then some (2, 0x80, 0xBF)
    else if n = 0xF0 then some (3, 0x90, 0xBF)
    else if 0xF1 ≤ n ∧ n ≤ 0xF3 then some (3, 0x80, 0xBF)
    else if n = 0xF4 then some (3, 0x80, 0x8F)
    else none := by
  simp only [leading?, UInt8.le_iff_toNat_le, ← UInt8.toNat_inj, toNat_ofNat hn]
  rfl

/-- The range for the second of three bytes holds the one that is written: a number of at least
`0x800` is too large for a first byte `0xE0` with a small second one, and it is no surrogate. -/
theorem leading?_three {v : Nat} (hlow : 0x7ff < v) (hhigh : v ≤ 0xffff)
    (hvalid : v < 0xD800 ∨ 0xDFFF < v) :
    ∃ lo hi : UInt8, leading? (UInt8.ofNat (v / 4096 % 16 + 0xe0)) = some (2, lo, hi) ∧
      lo.toNat ≤ v / 64 % 64 + 0x80 ∧ v / 64 % 64 + 0x80 ≤ hi.toNat := by
  rw [leading?_eq (by omega), if_neg (by omega)]
  by_cases h₀ : v / 4096 % 16 + 0xe0 = 0xE0
  · refine ⟨0xA0, 0xBF, by rw [if_pos h₀], ?_, ?_⟩
    · show 0xA0 ≤ _
      omega
    · show _ ≤ 0xBF
      omega
  by_cases hd : v / 4096 % 16 + 0xe0 = 0xED
  · refine ⟨0x80, 0x9F, by rw [if_neg h₀, if_pos hd], ?_, ?_⟩
    · show 0x80 ≤ _
      omega
    · show _ ≤ 0x9F
      omega
  refine ⟨0x80, 0xBF, by rw [if_neg h₀, if_neg hd, if_pos (by omega)], ?_, ?_⟩
  · show 0x80 ≤ _
    omega
  · show _ ≤ 0xBF
    omega

/-- The range for the second of four bytes holds the one that is written: the number is at least
`0x10000` and below `0x110000`. -/
theorem leading?_four {v : Nat} (hlow : 0xffff < v) (hhigh : v < 0x110000) :
    ∃ lo hi : UInt8, leading? (UInt8.ofNat (v / 262144 % 8 + 0xf0)) = some (3, lo, hi) ∧
      lo.toNat ≤ v / 4096 % 64 + 0x80 ∧ v / 4096 % 64 + 0x80 ≤ hi.toNat := by
  rw [leading?_eq (by omega), if_neg (by omega), if_neg (by omega), if_neg (by omega),
    if_neg (by omega)]
  by_cases h₀ : v / 262144 % 8 + 0xf0 = 0xF0
  · refine ⟨0x90, 0xBF, by rw [if_pos h₀], ?_, ?_⟩
    · show 0x90 ≤ _
      omega
    · show _ ≤ 0xBF
      omega
  by_cases h₄ : v / 262144 % 8 + 0xf0 = 0xF4
  · refine ⟨0x80, 0x8F, by rw [if_neg h₀, if_neg (by omega), if_pos h₄], ?_, ?_⟩
    · show 0x80 ≤ _
      omega
    · show _ ≤ 0x8F
      omega
  refine ⟨0x80, 0xBF, by rw [if_neg h₀, if_pos (by omega)], ?_, ?_⟩
  · show 0x80 ≤ _
    omega
  · show _ ≤ 0xBF
    omega

/-- **The first piece of a character's bytes is that character**, whatever follows. -/
theorem first_encodeChar (c : Char) (rest : List UInt8) :
    ∃ b tail, utf8EncodeChar c = b :: tail ∧
      first b (tail ++ rest) = .char c (tail.length + 1) := by
  have hc : Char.ofNat c.val.toNat = c := Char.ofNat_toNat c
  have hvalid : c.val.toNat < 0xD800 ∨ 0xDFFF < c.val.toNat ∧ c.val.toNat < 0x110000 := c.valid
  generalize hv : c.val.toNat = v at hc hvalid
  unfold utf8EncodeChar
  simp only [hv]
  -- the cases are those of the encoder: one byte, two, three, four
  by_cases h₁ : v ≤ 0x7f
  · refine ⟨UInt8.ofNat v, [], by simp [h₁], ?_⟩
    have hb : UInt8.ofNat v < 0x80 := by
      rw [UInt8.lt_iff_toNat_lt, toNat_ofNat (by omega)]
      exact Nat.lt_succ_of_le h₁
    rw [first, if_pos hb, toNat_ofNat (by omega), hc]
    rfl
  by_cases h₂ : v ≤ 0x7ff
  · refine ⟨_, [UInt8.ofNat (v % 64 + 0x80)], by rw [if_neg h₁, if_pos h₂], ?_⟩
    have hlead : leading? (UInt8.ofNat (v / 64 % 32 + 0xc0)) = some (1, 0x80, 0xBF) := by
      rw [leading?_eq (by omega), if_pos (by omega)]
    -- what is left of the marks are the digits of `v` to base 64
    have hsum : (v / 64 % 32 + 0xc0) % 0x20 * 64 + v % 64 = v := by omega
    rw [first_of_leading (by omega) hlead (by omega), leadingBits, toNat_ofNat (by omega)]
    rw [List.singleton_append, continuation_succ (by omega) (by simp) (by simp; omega)]
    rw [continuation, hsum, hc]
    rfl
  by_cases h₃ : v ≤ 0xffff
  · refine ⟨_, [UInt8.ofNat (v / 64 % 64 + 0x80), UInt8.ofNat (v % 64 + 0x80)],
      by rw [if_neg h₁, if_neg h₂, if_pos h₃], ?_⟩
    obtain ⟨lo, hi, hlead, hlo, hhi⟩ := leading?_three (v := v) (by omega) h₃ (by omega)
    have hsum : ((v / 4096 % 16 + 0xe0) % 0x10 * 64 + v / 64 % 64) * 64 + v % 64 = v := by omega
    rw [first_of_leading (by omega) hlead (by omega), leadingBits, toNat_ofNat (by omega)]
    rw [List.cons_append, continuation_succ (by omega) hlo hhi]
    rw [List.singleton_append, continuation_succ (by omega) (by simp) (by simp; omega)]
    rw [continuation, hsum, hc]
    rfl
  · refine ⟨_, [UInt8.ofNat (v / 4096 % 64 + 0x80), UInt8.ofNat (v / 64 % 64 + 0x80),
      UInt8.ofNat (v % 64 + 0x80)], by rw [if_neg h₁, if_neg h₂, if_neg h₃], ?_⟩
    obtain ⟨lo, hi, hlead, hlo, hhi⟩ := leading?_four (v := v) (by omega) (by omega)
    have hbits : ∀ b, leadingBits b 3 = b.toNat % 0x08 := fun _ => rfl
    have hsum : (((v / 262144 % 8 + 0xf0) % 0x08 * 64 + v / 4096 % 64) * 64 + v / 64 % 64) * 64 +
        v % 64 = v := by omega
    rw [first_of_leading (by omega) hlead (by omega), hbits, toNat_ofNat (by omega)]
    rw [List.cons_append, continuation_succ (by omega) hlo hhi]
    rw [List.cons_append, continuation_succ (by omega) (by simp) (by simp; omega)]
    rw [List.singleton_append, continuation_succ (by omega) (by simp) (by simp; omega)]
    rw [continuation, hsum, hc]
    rfl

/-! ## 3. Pieces of a text -/

theorem piecesFrom_append (skipped rest : List UInt8) :
    piecesFrom skipped.length (skipped ++ rest) = piecesFrom 0 rest := by
  induction skipped with
  | nil => rfl
  | cons b skipped ih => simpa [piecesFrom] using ih

/-- Nothing but the characters comes out, each with the number of its bytes. -/
theorem piecesFrom_encodeChars (cs : List Char) :
    piecesFrom 0 (cs.flatMap utf8EncodeChar) =
      cs.map fun c => .char c (utf8EncodeChar c).length := by
  induction cs with
  | nil => rfl
  | cons c cs ih =>
    obtain ⟨b, tail, hbytes, hfirst⟩ := first_encodeChar c (cs.flatMap utf8EncodeChar)
    rw [List.flatMap_cons, List.map_cons, ← ih, hbytes, List.cons_append, piecesFrom, hfirst]
    simp only [Utf8Piece.size, Nat.add_sub_cancel, piecesFrom_append, List.length_cons]

theorem strict_chars (offset : Nat) (size : Char → Nat) (cs : List Char) :
    strict offset (cs.map fun c => .char c (size c)) = .ok cs := by
  induction cs generalizing offset with
  | nil => rfl
  | cons c cs ih =>
    rw [List.map_cons, strict, ih]
    rfl

/-- **Reading gives back what was written.** -/
theorem decode_encode (s : String) : decode (encode s) = .ok s := by
  rw [decode, pieces, encode_eq, piecesFrom_encodeChars, strict_chars]
  show Except.ok (String.ofList s.toList) = _
  rw [String.ofList_toList]

end Utf8
end Text
end ClusterTriage
