import ClusterTriage.Datum.Json.Parser
import ClusterTriage.Datum.Json.Printer
import ClusterTriage.Proofs.Toml.Values

/-!
# Scalars in JSON

Strings, integers, truth values and null. All of them are written in one way, and the reader finds their
end by itself: a string has its closing quote, and an integer ends where something follows that no number
goes on with.

> **What is written for a scalar is read as the scalar**, whatever follows (`value_scalar`).
-/

namespace ClusterTriage
namespace Json

open Number
open Toml (intDigits isDigit_of_mem_toDigits eq_zero_of_toDigits_eq digitsValue_toDigits)

variable {c : Char} {cs ds rest acc : List Char} {n fuel depth : Nat} {i : Int} {d : Datum} {s : String}

/-! ## 1. Strings -/

theorem value?_digit : ∀ n < 16, Encoding.Hex.value? (Encoding.Hex.digit n) = some n := by decide

theorem escape_hex (h : c.toNat < 0x20) :
    escape ('u' :: '0' :: '0' :: Encoding.Hex.digit (c.toNat / 16) :: Encoding.Hex.digit (c.toNat % 16) :: rest) =
      some (some c, rest) := by
  have hzero : Encoding.Hex.value? '0' = some 0 := by decide
  have hnumber : hex4 ('0' :: '0' :: Encoding.Hex.digit (c.toNat / 16) ::
      Encoding.Hex.digit (c.toNat % 16) :: rest) = some (c.toNat, rest) := by
    simp only [hex4, Encoding.Hex.toNat?, List.foldlM_cons, List.foldlM_nil, hzero,
      value?_digit _ (by omega : c.toNat / 16 < 16), value?_digit _ (by omega : c.toNat % 16 < 16),
      Option.map_some, Option.pure_def, Option.bind_eq_bind, Option.bind_some, Option.some.injEq,
      Prod.mk.injEq, and_true]
    omega
  have hhigh : isHighSurrogate c.toNat = false := by simp [isHighSurrogate]; omega
  have hlow : isLowSurrogate c.toNat = false := by simp [isLowSurrogate]; omega
  rw [escape, hnumber]
  simp only [Option.bind_eq_bind, Option.bind_some, hhigh, hlow, Bool.false_eq_true, if_false, Char.ofNat_toNat]

/-- A character is written as an escape that stands for it, or it stands for itself. -/
theorem escapeChar_cases (c : Char) :
    (∃ e, escapeChar c = '\\' :: e ∧ ∀ rest, escape (e ++ rest) = some (some c, rest)) ∨
      escapeChar c = [c] ∧ c ≠ '"' ∧ c ≠ '\\' ∧ ¬ c.toNat < 0x20 := by
  by_cases hshort : c ∈ ['"', '\\', '\n', '\r', '\t', '\x08', '\x0C']
  · left
    simp only [List.mem_cons, List.not_mem_nil, or_false] at hshort
    rcases hshort with rfl | rfl | rfl | rfl | rfl | rfl | rfl <;> exact ⟨_, rfl, fun _ => rfl⟩
  · simp only [List.mem_cons, List.not_mem_nil, or_false, not_or] at hshort
    obtain ⟨hquote, hslash, hnewline, hreturn, htab, hback, hfeed⟩ := hshort
    rw [escapeChar, if_neg hquote, if_neg hslash, if_neg hnewline, if_neg hreturn, if_neg htab, if_neg hback,
      if_neg hfeed]
    by_cases hcontrol : c.toNat < 0x20
    · rw [if_pos hcontrol]
      exact .inl ⟨_, rfl, fun _ => escape_hex hcontrol⟩
    · rw [if_neg hcontrol]
      exact .inr ⟨rfl, hquote, hslash, hcontrol⟩

theorem stringBody_escapeChar :
    stringBody (fuel + 1) (some acc) (escapeChar c ++ rest) = stringBody fuel (some (c :: acc)) rest := by
  rcases escapeChar_cases c with ⟨e, he, hescape⟩ | ⟨hself, hquote, hslash, hcontrol⟩
  · rw [he, List.cons_append, stringBody, hescape]
    rfl
  · rw [hself, List.singleton_append, stringBody, if_neg hcontrol]
    · rfl
    · exact hquote
    · exact hslash

/-- Characters as they are written in a string. -/
def escaped (cs : List Char) : List Char := cs.flatMap escapeChar

theorem stringBody_escaped (h : cs.length < fuel) :
    stringBody fuel (some acc) (escaped cs ++ '"' :: rest) =
      some (some (String.ofList (acc.reverse ++ cs)), rest) := by
  induction cs generalizing fuel acc with
  | nil =>
    obtain ⟨fuel, rfl⟩ := Nat.exists_eq_succ_of_ne_zero (Nat.ne_of_gt h)
    show stringBody (fuel + 1) (some acc) ('"' :: rest) = _
    rw [stringBody, List.append_nil]
    rfl
  | cons c cs ih =>
    obtain ⟨fuel, rfl⟩ := Nat.exists_eq_succ_of_ne_zero (Nat.ne_of_gt (Nat.zero_lt_of_lt h))
    rw [escaped, List.flatMap_cons, List.append_assoc, stringBody_escapeChar]
    rw [← escaped, ih (Nat.lt_of_succ_lt_succ h), List.reverse_cons, List.append_assoc]
    rfl

theorem length_le_escaped (cs : List Char) : cs.length ≤ (escaped cs).length := by
  induction cs with
  | nil => exact Nat.le_refl 0
  | cons c cs ih =>
    have hone : 1 ≤ (escapeChar c).length := by
      rcases escapeChar_cases c with ⟨e, he, -⟩ | ⟨hself, -⟩
      · rw [he]; simp
      · rw [hself]; simp
    rw [escaped, List.flatMap_cons, List.length_append, List.length_cons, ← escaped]
    omega

theorem toList_quote (s : String) : (quote s).toList = '"' :: (escaped s.toList ++ ['"']) := by
  rw [quote, String.toList_ofList]
  rfl

theorem quote_append (s : String) (rest : List Char) :
    (quote s).toList ++ rest = '"' :: (escaped s.toList ++ '"' :: rest) := by
  rw [toList_quote, List.cons_append, List.append_assoc, List.singleton_append]

/-- **A string is read up to its closing quote.** -/
theorem stringBody_quote (s : String) (rest : List Char) :
    stringBody ((escaped s.toList ++ '"' :: rest).length + 1) (some []) (escaped s.toList ++ '"' :: rest) =
      some (some s, rest) := by
  have hlength := length_le_escaped s.toList
  have hfuel : s.toList.length < (escaped s.toList ++ '"' :: rest).length + 1 := by
    simp only [List.length_append, List.length_cons]
    omega
  rw [stringBody_escaped hfuel, List.reverse_nil, List.nil_append, String.ofList_toList]

/-! ## 2. Integers -/

/-- What stands here ends a number: nothing, a mark of punctuation or a blank. -/
def Stops (rest : List Char) : Prop :=
  ∀ c ∈ rest.head?, c = ',' ∨ c = ']' ∨ c = '\x7d' ∨ isSpace c = true

theorem Stops.ne (h : Stops (c :: rest)) : isDigit c = false ∧ c ≠ '.' ∧ c ≠ 'e' ∧ c ≠ 'E' := by
  have hc := h c rfl
  simp only [isSpace, Bool.or_eq_true, beq_iff_eq, or_assoc] at hc
  rcases hc with rfl | rfl | rfl | rfl | rfl | rfl | rfl <;> decide

theorem digits_append (h : ∀ c ∈ ds, isDigit c = true) (hrest : Stops rest) :
    digits (ds ++ rest) = (ds, rest) := by
  have hnone : rest.takeWhile isDigit = [] ∧ rest.dropWhile isDigit = rest := by
    cases rest with
    | nil => exact ⟨rfl, rfl⟩
    | cons c rest => simp [hrest.ne.1]
  rw [digits, List.takeWhile_append_of_pos h, List.dropWhile_append_of_pos h, hnone.1, hnone.2, List.append_nil]

theorem wholePart_toDigits (hrest : Stops rest) :
    wholePart (Nat.toDigits 10 n ++ rest) = some (Nat.toDigits 10 n, rest) := by
  cases hds : Nat.toDigits 10 n with
  | nil => exact absurd hds Nat.toDigits_ne_nil
  | cons c ds =>
    have hall : ∀ c' ∈ c :: ds, isDigit c' = true := fun c' h => isDigit_of_mem_toDigits (hds ▸ h)
    unfold wholePart
    split
    · rename_i tail heq
      obtain ⟨rfl, rfl⟩ := List.cons.inj heq
      obtain ⟨-, rfl⟩ := eq_zero_of_toDigits_eq hds
      have hstop : (rest.head?.map isDigit).getD false = false := by
        cases rest with
        | nil => rfl
        | cons c rest => exact hrest.ne.1
      show (if (rest.head?.map isDigit).getD false = true then none else some (['0'], rest)) = _
      rw [hstop]
      rfl
    · rw [digits_append hall hrest]
      rfl

theorem fractionPart_stops (h : Stops rest) : fractionPart rest = some (none, rest) := by
  unfold fractionPart
  split
  · exact absurd rfl h.ne.2.1
  · rfl

theorem exponentPart_stops (h : Stops rest) : exponentPart rest = some (none, rest) := by
  cases rest with
  | nil => rfl
  | cons c rest =>
    obtain ⟨-, -, hsmall, hbig⟩ := h.ne
    unfold exponentPart
    exact if_neg (not_or.mpr ⟨hsmall, hbig⟩)

theorem numeral_natural (h : n < 0x10000000000000000) :
    numeral false (Nat.toDigits 10 n) none none = .int n := by
  simp only [numeral, digitsValue_toDigits, Bool.false_eq_true, if_false, if_pos h]

theorem numeral_negative (hzero : n ≠ 0) (h : n ≤ 0x8000000000000000) :
    numeral true (Nat.toDigits 10 n) none none = .int (-(n : Int)) := by
  have hbounds : ¬ (n = 0 ∨ 0x8000000000000000 < n) := by omega
  simp only [numeral, digitsValue_toDigits, if_true, if_neg hbounds]

theorem number_intDigits (hlo : -0x8000000000000000 ≤ i) (hhi : i < 0x10000000000000000) (hrest : Stops rest) :
    number (intDigits i ++ rest) = some (.int i, rest) := by
  cases i with
  | ofNat n =>
    have hunsigned : ∀ cs, intDigits (.ofNat n) ++ rest = '-' :: cs → False := by
      intro cs h
      obtain ⟨c, ds, hds⟩ := List.exists_cons_of_ne_nil (Nat.toDigits_ne_nil (b := 10) (n := n))
      have hdigit : isDigit c = true := isDigit_of_mem_toDigits (hds ▸ List.mem_cons_self)
      rw [intDigits, hds, List.cons_append] at h
      obtain ⟨rfl, -⟩ := List.cons.inj h
      cases hdigit
    have hn : n < 0x10000000000000000 := Int.ofNat_lt.mp hhi
    rw [number]
    · simp only [intDigits, wholePart_toDigits hrest, fractionPart_stops hrest, exponentPart_stops hrest,
        Option.bind_eq_bind, Option.bind_some, numeral_natural hn]
      rfl
    · exact hunsigned
  | negSucc n =>
    rw [intDigits, List.cons_append, number]
    simp only [wholePart_toDigits hrest, fractionPart_stops hrest, exponentPart_stops hrest,
      Option.bind_eq_bind, Option.bind_some, numeral_negative n.succ_ne_zero (by omega : n + 1 ≤ _)]
    rfl

/-! ## 3. Scalars -/

theorem skipSpace_cons (h : isSpace c = false) : skipSpace (c :: cs) = c :: cs := by
  rw [skipSpace, List.dropWhile_cons_of_neg (by simp [h])]

theorem ne_of_digit {a : Char} (hc : c = '-' ∨ isDigit c = true) (ha : a ≠ '-' ∧ isDigit a = false) : c ≠ a := by
  rintro rfl
  rcases hc with rfl | hdigit
  · exact ha.1 rfl
  · exact absurd (hdigit.symm.trans ha.2) nofun

theorem isSpace_of_digit (hc : c = '-' ∨ isDigit c = true) : isSpace c = false := by
  simp only [isSpace, Bool.or_eq_false_iff, beq_eq_false_iff_ne]
  exact ⟨⟨⟨ne_of_digit hc (by decide), ne_of_digit hc (by decide)⟩, ne_of_digit hc (by decide)⟩,
    ne_of_digit hc (by decide)⟩

theorem value_of_digit (hc : c = '-' ∨ isDigit c = true) :
    value (fuel + 1) depth (c :: cs) = number (c :: cs) := by
  rw [value, skipSpace_cons (isSpace_of_digit hc)]
  split
  case h_1 heq => cases heq
  case h_2 heq => exact absurd (List.cons.inj heq).1 (ne_of_digit hc (by decide))
  case h_3 heq => exact absurd (List.cons.inj heq).1 (ne_of_digit hc (by decide))
  case h_4 heq => exact absurd (List.cons.inj heq).1 (ne_of_digit hc (by decide))
  case h_5 heq =>
    obtain ⟨rfl, rfl⟩ := List.cons.inj heq
    exact if_pos hc

theorem value_quote (s : String) (rest : List Char) :
    value (fuel + 1) depth ((quote s).toList ++ rest) = some (.string s, rest) := by
  rw [quote_append, value, skipSpace_cons (by decide)]
  simp only [stringBody_quote, Option.bind_eq_bind, Option.bind_some, Option.map_some, Option.getD_some]

/-- The scalars that are written as they are. -/
inductive Scalar : Datum → Prop
  | null : Scalar .null
  | bool (b : Bool) : Scalar (.bool b)
  | int (i : Int) (hlo : -0x8000000000000000 ≤ i) (hhi : i < 0x10000000000000000) : Scalar (.int i)
  | string (s : String) : Scalar (.string s)

/-- **What is written for a scalar is read as the scalar.** -/
theorem value_scalar (h : Scalar d) (hrest : Stops rest) :
    value (fuel + 1) depth ((scalar d).toList ++ rest) = some (d, rest) := by
  cases h with
  | null => rfl
  | bool b => cases b <;> rfl
  | int i hlo hhi =>
    obtain ⟨c, cs, hcs, hc⟩ := Toml.intDigits_eq_cons i
    have hread := number_intDigits hlo hhi hrest
    rw [scalar, Toml.toList_toString]
    rw [hcs, List.cons_append] at hread ⊢
    rw [value_of_digit hc, hread]
  | string s => exact value_quote s rest

/-- No scalar starts with a blank or a closing bracket. -/
theorem scalar_eq_cons (h : Scalar d) :
    ∃ c cs, (scalar d).toList = c :: cs ∧ isSpace c = false ∧ c ≠ ']' := by
  cases h with
  | null => exact ⟨_, _, rfl, by decide, by decide⟩
  | bool b => cases b <;> exact ⟨_, _, rfl, by decide, by decide⟩
  | int i hlo hhi =>
    obtain ⟨c, cs, hcs, hc⟩ := Toml.intDigits_eq_cons i
    rw [scalar, Toml.toList_toString]
    exact ⟨c, cs, hcs, isSpace_of_digit hc, ne_of_digit hc (by decide)⟩
  | string s => exact ⟨_, _, toList_quote s, by decide, by decide⟩

end Json
end ClusterTriage
