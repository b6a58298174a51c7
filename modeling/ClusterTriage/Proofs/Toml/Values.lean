import ClusterTriage.Proofs.Text.Substitution
import ClusterTriage.Proofs.Toml.Strings

/-!
# Values come back

The values of a line: integers of 64 bits, strings, and arrays of these.

> **What is written after a key is read as the value** (`value_valueText`).

The reader finds the end of a scalar by what follows it, so every lemma is about a text with a rest
that cannot belong to the value any more. Its fuel is the length of the text, and a value needs less.
-/

namespace ClusterTriage
namespace Toml

open Number

variable {c : Char} {cs ds rest : List Char} {n : Nat} {i : Int} {d : Datum} {items : List Datum}
  {s : String} {fuel depth : Nat}

/-! ## 1. Integers -/

theorem isDigit_of_mem_toDigits (h : c ∈ Nat.toDigits 10 n) : isDigit c = true := by
  have hdigit := Nat.isDigit_of_mem_toDigits (by decide) (Nat.le_refl 10) h
  simpa [Char.isDigit, isDigit, Char.le_def] using hdigit

/-- Only the number zero starts with a zero. -/
theorem eq_zero_of_toDigits_eq (h : Nat.toDigits 10 n = '0' :: cs) : n = 0 ∧ cs = [] := by
  induction n using Nat.strongRecOn generalizing cs with
  | _ n ih =>
    rw [Nat.toDigits_eq_if (by decide)] at h
    split at h
    · obtain ⟨hn, rfl⟩ := List.cons.inj h
      exact ⟨by simpa using hn, rfl⟩
    · obtain ⟨d, ds, hds⟩ := List.exists_cons_of_ne_nil (Nat.toDigits_ne_nil (b := 10) (n := n / 10))
      rw [hds, List.cons_append] at h
      obtain ⟨rfl, -⟩ := List.cons.inj h
      have := ih (n / 10) (by omega) hds
      omega

theorem toDigits_ne_zero_cons (n : Nat) (c : Char) (cs : List Char) :
    Nat.toDigits 10 n ≠ '0' :: c :: cs := fun h =>
  List.cons_ne_nil c cs (eq_zero_of_toDigits_eq h).2

theorem wholeDigits_toDigits : wholeDigits (Nat.toDigits 10 n) = some (Nat.toDigits 10 n) := by
  have hall : (Nat.toDigits 10 n).all isDigit = true :=
    List.all_eq_true.mpr fun c hc => isDigit_of_mem_toDigits hc
  have hgrouped : grouped isDigit (Nat.toDigits 10 n) = some (Nat.toDigits 10 n) := by
    unfold grouped
    rw [Text.splitOnChar_of_not_mem Nat.underscore_not_in_toDigits]
    simp [hall, Nat.toDigits_ne_nil]
  unfold wholeDigits
  rw [hgrouped]
  simp only [Option.bind_eq_bind, Option.bind_some]
  split
  · exact absurd ‹_› (toDigits_ne_zero_cons n _ _)
  · rfl

theorem digitsValue_toDigits : digitsValue (Nat.toDigits 10 n) = n := by
  have h := Nat.ofDigitChars_ten_toDigits (n := n)
  rw [Nat.ofDigitChars_eq_foldl] at h
  simpa only [digitsValue, Nat.mul_comm 10] using h

def intDigits : Int → List Char
  | .ofNat n => Nat.toDigits 10 n
  | .negSucc n => '-' :: Nat.toDigits 10 (n + 1)

theorem toList_toString (i : Int) : (toString i).toList = intDigits i := by
  cases i with
  | ofNat n => exact Nat.toList_repr
  | negSucc n =>
    show ("-" ++ Nat.repr (n + 1)).toList = _
    rw [String.toList_append, Nat.toList_repr]
    rfl

/-- The first character of a scalar. -/
def isOpening (c : Char) : Bool := c == '"' || c == '\'' || c == '-' || isDigit c

theorem ne_of_isOpening {a : Char} (h : isOpening c = true) (ha : isOpening a = false) : c ≠ a := by
  rintro rfl
  exact absurd (h.symm.trans ha) (by decide)

theorem isOpening_of_digit (h : c = '-' ∨ isDigit c = true) : isOpening c = true := by
  rcases h with rfl | h
  · rfl
  · simp [isOpening, h]

theorem digit_of_mem_intDigits (h : c ∈ intDigits i) : c = '-' ∨ isDigit c = true := by
  cases i with
  | ofNat n => exact .inr (isDigit_of_mem_toDigits h)
  | negSucc n => exact (List.mem_cons.mp h).imp_right isDigit_of_mem_toDigits

theorem intDigits_eq_cons (i : Int) :
    ∃ c cs, intDigits i = c :: cs ∧ (c = '-' ∨ isDigit c = true) := by
  have hne : intDigits i ≠ [] := by
    cases i with
    | ofNat n => exact Nat.toDigits_ne_nil
    | negSucc n => exact List.cons_ne_nil _ _
  obtain ⟨c, cs, h⟩ := List.exists_cons_of_ne_nil hne
  exact ⟨c, cs, h, digit_of_mem_intDigits (h ▸ List.mem_cons_self)⟩

theorem radixInteger_toDigits : radixInteger (Nat.toDigits 10 n) = none := by
  unfold radixInteger
  split
  · exact absurd ‹_› (toDigits_ne_zero_cons n _ _)
  · exact absurd ‹_› (toDigits_ne_zero_cons n _ _)
  · exact absurd ‹_› (toDigits_ne_zero_cons n _ _)
  · rfl

theorem sign_toDigits : sign (Nat.toDigits 10 n) = (false, Nat.toDigits 10 n) := by
  unfold sign
  split
  · rename_i h
    exact absurd (isDigit_of_mem_toDigits (h ▸ List.mem_cons_self)) (by decide)
  · rename_i h
    exact absurd (isDigit_of_mem_toDigits (h ▸ List.mem_cons_self)) (by decide)
  · rfl

/-- An integer without a mark of its base is a sign and decimal digits. -/
theorem integer?_of_decimal {negative : Bool} (hradix : radixInteger cs = none)
    (hsign : sign cs = (negative, ds)) (hdigits : wholeDigits ds = some ds)
    (hi : (if negative = true then -(digitsValue ds : Int) else digitsValue ds) = i)
    (hlo : -0x8000000000000000 ≤ i) (hhi : i < 0x8000000000000000) :
    integer? cs = some (.int i) := by
  unfold integer?
  rw [hradix]
  dsimp only
  rw [hsign]
  dsimp only
  rw [hdigits, Option.bind_eq_bind, Option.bind_some, Option.bind_eq_bind, Option.bind_some, hi,
    if_pos ⟨hlo, hhi⟩]

theorem integer?_intDigits (hlo : -0x8000000000000000 ≤ i) (hhi : i < 0x8000000000000000) :
    integer? (intDigits i) = some (.int i) := by
  cases i with
  | ofNat n =>
    exact integer?_of_decimal radixInteger_toDigits sign_toDigits wholeDigits_toDigits
      (by rw [if_neg (by decide), digitsValue_toDigits]; rfl) hlo hhi
  | negSucc n =>
    exact integer?_of_decimal rfl rfl wholeDigits_toDigits
      (by rw [if_pos rfl, digitsValue_toDigits]; rfl) hlo hhi

theorem scalar?_intDigits (hlo : -0x8000000000000000 ≤ i) (hhi : i < 0x8000000000000000) :
    scalar? (intDigits i) = some (.int i) := by
  obtain ⟨c, cs, h, hc⟩ := intDigits_eq_cons i
  have hopening := isOpening_of_digit hc
  have htrue : intDigits i ≠ "true".toList := fun heq =>
    ne_of_isOpening (a := 't') hopening (by decide) (List.cons.inj (h.symm.trans heq)).1
  have hfalse : intDigits i ≠ "false".toList := fun heq =>
    ne_of_isOpening (a := 'f') hopening (by decide) (List.cons.inj (h.symm.trans heq)).1
  rw [scalar?, if_neg htrue, if_neg hfalse, integer?_intDigits hlo hhi]
  rfl

/-! ## 2. Scalars in a line -/

/-- What may follow a value. -/
def Follows (rest : List Char) : Prop := ∃ c r, rest = c :: r ∧ (c = '\n' ∨ c = ',' ∨ c = ']')

theorem follows_cons (h : c = '\n' ∨ c = ',' ∨ c = ']') : Follows (c :: rest) := ⟨c, rest, rfl, h⟩

theorem Follows.apart (h : Follows rest) : Apart rest := by
  obtain ⟨c, r, rfl, rfl | rfl | rfl⟩ := h <;> exact apart_cons (by decide)

theorem plainScalar_intDigits (hlo : -0x8000000000000000 ≤ i) (hhi : i < 0x8000000000000000)
    (hrest : Follows rest) : plainScalar (intDigits i ++ rest) = some (.int i, rest) := by
  have hgo : ∀ c ∈ intDigits i, (!endsScalar c) = true := fun c hc => by
    have hopening := isOpening_of_digit (digit_of_mem_intDigits hc)
    cases hends : endsScalar c with
    | false => rfl
    | true =>
      simp only [endsScalar, isBlankChar, Bool.or_eq_true, beq_iff_eq] at hends
      rcases hends with (((((((rfl | rfl) | rfl) | rfl) | rfl) | rfl) | rfl) | rfl) | rfl <;>
        exact absurd hopening (by decide)
  obtain ⟨c, r, rfl, hc⟩ := hrest
  have hstop : (!endsScalar c) = false := by
    rcases hc with rfl | rfl | rfl <;> rfl
  have hblank : c ≠ ' ' := by
    rcases hc with rfl | rfl | rfl <;> decide
  have htake : (intDigits i ++ c :: r).takeWhile (!endsScalar ·) = intDigits i := by
    rw [List.takeWhile_append_of_pos hgo, List.takeWhile_cons_of_neg (by simp [hstop]),
      List.append_nil]
  have hdrop : (intDigits i ++ c :: r).dropWhile (!endsScalar ·) = c :: r := by
    rw [List.dropWhile_append_of_pos hgo, List.dropWhile_cons_of_neg (by simp [hstop])]
  unfold plainScalar
  simp only [htake, hdrop, scalar?_intDigits hlo hhi]
  split
  · rename_i h
    split at h
    · rename_i heq
      exact absurd (List.cons.inj heq).1 hblank
    · cases h
  · rfl

/-- A value that a line can hold without brackets. -/
inductive Scalar : Datum → Prop where
  | int {i : Int} : -0x8000000000000000 ≤ i → i < 0x8000000000000000 → Scalar (.int i)
  | string (s : String) : Scalar (.string s)

theorem string_eq_cons (s : String) : ∃ c cs, (string s).toList = c :: cs ∧ (c = '"' ∨ c = '\'') := by
  unfold string
  simp only
  repeat' split
  all_goals
    rw [toList_between]
    first
    | exact ⟨'"', _, rfl, .inl rfl⟩
    | exact ⟨'\'', _, rfl, .inr rfl⟩

theorem Scalar.opening (h : Scalar d) :
    ∃ c cs, (inline d).toList = c :: cs ∧ isOpening c = true := by
  cases h with
  | @int i =>
    obtain ⟨c, cs, h, hc⟩ := intDigits_eq_cons i
    exact ⟨c, cs, by rw [inline, toList_toString, h], isOpening_of_digit hc⟩
  | string s =>
    obtain ⟨c, cs, h, hc⟩ := string_eq_cons s
    refine ⟨c, cs, by rw [inline, h], ?_⟩
    rcases hc with rfl | rfl <;> rfl

theorem value_of_quote (hc : c = '"' ∨ c = '\'') : value (fuel + 1) depth (c :: cs) =
    (quotedString false (c :: cs)).map fun (s, rest) => (.string s, rest) := by
  rcases hc with rfl | rfl <;> rfl

theorem value_of_digit (hc : c = '-' ∨ isDigit c = true) :
    value (fuel + 1) depth (c :: cs) = plainScalar (c :: cs) := by
  -- neither a sign nor a digit opens anything else
  rw [value] <;>
  · intro _ h
    obtain rfl := (List.cons.inj h).1
    exact absurd hc (by decide)

theorem value_scalar (h : Scalar d) (hrest : Follows rest) :
    value (fuel + 1) depth ((inline d).toList ++ rest) = some (d, rest) := by
  cases h with
  | @int i hlo hhi =>
    obtain ⟨c, cs, h, hc⟩ := intDigits_eq_cons i
    rw [inline, toList_toString, ← plainScalar_intDigits hlo hhi hrest, h]
    exact value_of_digit hc
  | string s =>
    obtain ⟨c, cs, h, hc⟩ := string_eq_cons s
    have hread := quotedString_string (s := s) hrest.apart
    rw [h] at hread
    rw [inline, h, List.cons_append, value_of_quote hc, ← List.cons_append, hread]
    rfl

/-! ## 3. Arrays -/

theorem skipBlanks_cons (h : isBlankChar c = false) : skipBlanks (c :: rest) = c :: rest := by
  rw [skipBlanks, List.dropWhile_cons_of_neg (by simp [h])]

theorem comment?_cons (h : c ≠ '#') : comment? (c :: rest) = some (c :: rest) := by
  unfold comment?
  split
  · rename_i heq
    exact absurd (List.cons.inj heq).1 h
  · rfl

/-- A character at which lines are not skipped any further. -/
def Halts (c : Char) : Prop := isBlankChar c = false ∧ c ≠ '#' ∧ c ≠ '\n' ∧ c ≠ '\r'

instance : Decidable (Halts c) := inferInstanceAs (Decidable (_ ∧ _))

theorem halts_of_isOpening (h : isOpening c = true) : Halts c := by
  refine ⟨?_, ne_of_isOpening h (by decide), ne_of_isOpening h (by decide),
    ne_of_isOpening h (by decide)⟩
  have h₁ := ne_of_isOpening (a := ' ') h (by decide)
  have h₂ := ne_of_isOpening (a := '\t') h (by decide)
  simp [isBlankChar, h₁, h₂]

theorem skipLines_of_halts (h : Halts c) : skipLines fuel (c :: rest) = some (c :: rest) := by
  cases fuel with
  | zero => rfl
  | succ fuel =>
    rw [skipLines, skipBlanks_cons h.1, comment?_cons h.2.1, Option.bind_eq_bind, Option.bind_some,
      newline?_cons h.2.2.1 h.2.2.2]

theorem skipLines_newline : skipLines (fuel + 1) ('\n' :: rest) = skipLines fuel rest := rfl

/-- The end of a line and the indentation of the next. -/
theorem skipLines_indent (h : Halts c) (hfuel : 2 ≤ fuel) :
    skipLines fuel ('\n' :: (List.replicate 4 ' ' ++ c :: rest)) = some (c :: rest) := by
  obtain ⟨fuel, rfl⟩ : ∃ k, fuel = k + 2 := ⟨fuel - 2, by omega⟩
  have hblanks : skipBlanks (List.replicate 4 ' ' ++ c :: rest) = c :: rest := skipBlanks_cons h.1
  rw [skipLines_newline, skipLines, hblanks, comment?_cons h.2.1, Option.bind_eq_bind,
    Option.bind_some, newline?_cons h.2.2.1 h.2.2.2]

def itemLines : List Datum → List Char
  | [] => []
  | d :: ds => List.replicate 4 ' ' ++ ((inline d).toList ++ (',' :: '\n' :: itemLines ds))

theorem toList_join_inlineItems (items : List Datum) :
    (String.join ((inlineItems items).map fun t => "    " ++ t ++ ",\n")).toList =
      itemLines items := by
  induction items with
  | nil => rfl
  | cons d ds ih =>
    rw [inlineItems, List.map_cons, String.join_cons, String.toList_append, ih, String.toList_append,
      String.toList_append, itemLines, List.append_assoc, List.append_assoc]
    rfl

theorem length_le_itemLines (items : List Datum) : items.length ≤ (itemLines items).length := by
  induction items with
  | nil => exact Nat.zero_le _
  | cons d ds ih =>
    simp only [itemLines, List.length_append, List.length_cons]
    omega

/-- Whether more items come after the first one shows in the character after it. -/
theorem items_of_value {cs' more : List Char} {a : Char}
    (hskip : skipLines cs.length cs = some (c :: cs')) (hc : c ≠ ']') (ha : Halts a)
    (hvalue : value fuel depth (c :: cs') = some (d, a :: more)) :
    Toml.items (fuel + 1) depth cs =
      if a = ']' then some ([d], more)
      else if a = ',' then
        (Toml.items fuel depth more).bind fun (ds, rest) => some (d :: ds, rest)
      else none := by
  rw [Toml.items, hskip, Option.bind_eq_bind, Option.bind_some]
  split
  · rename_i h
    exact absurd (List.cons.inj h).1 hc
  · rw [hvalue, Option.bind_eq_bind, Option.bind_some]
    dsimp only
    rw [skipLines_of_halts ha, Option.bind_eq_bind, Option.bind_some]
    split <;> simp_all

theorem items_lines (hitems : ∀ d ∈ items, Scalar d) (hfuel : items.length < fuel) :
    Toml.items fuel depth ('\n' :: (itemLines items ++ ']' :: rest)) = some (items, rest) := by
  -- every item ends in a comma and a line, so the rest always starts with the end of a line
  induction items generalizing fuel with
  | nil =>
    obtain ⟨fuel, rfl⟩ := Nat.exists_eq_add_one_of_ne_zero (by omega : fuel ≠ 0)
    rw [Toml.items, List.length_cons, skipLines_newline, itemLines, List.nil_append,
      skipLines_of_halts (by decide)]
    rfl
  | cons d ds ih =>
    rw [List.length_cons] at hfuel
    obtain ⟨fuel, rfl⟩ : ∃ k, fuel = k + 2 := ⟨fuel - 2, by omega⟩
    have hd := hitems d List.mem_cons_self
    obtain ⟨c, cs, h, hc⟩ := hd.opening
    have hvalue : value (fuel + 1) depth
        (c :: (cs ++ ',' :: '\n' :: (itemLines ds ++ ']' :: rest))) =
          some (d, ',' :: '\n' :: (itemLines ds ++ ']' :: rest)) := by
      rw [← List.cons_append, ← h]
      exact value_scalar hd (follows_cons (.inr (.inl rfl)))
    have htext : '\n' :: (itemLines (d :: ds) ++ ']' :: rest) =
        '\n' :: (List.replicate 4 ' ' ++
          c :: (cs ++ ',' :: '\n' :: (itemLines ds ++ ']' :: rest))) := by
      rw [itemLines, h]
      simp only [List.append_assoc, List.cons_append]
    rw [htext, items_of_value (skipLines_indent (halts_of_isOpening hc) (by simp))
      (ne_of_isOpening hc (by decide)) (by decide) hvalue, if_neg (by decide), if_pos rfl,
      ih (fun d hd => hitems d (List.mem_cons_of_mem _ hd)) (by omega)]
    rfl

/-- A value that a line can hold: a scalar, or an array of scalars. -/
inductive Plain : Datum → Prop where
  | scalar {d : Datum} : Scalar d → Plain d
  | array {items : List Datum} : (∀ d ∈ items, Scalar d) → Plain (.array items)

theorem value_array {more : List Char} (h : Toml.items fuel 1 cs = some (items, more)) :
    value (fuel + 1) 0 ('[' :: cs) = some (.array items, more) := by
  have hdepth : ¬ maxDepth ≤ 0 := by decide
  rw [value, if_neg hdepth, h]
  rfl

theorem toList_valueText_nil : (valueText (.array [])).toList = ['[', ']'] := by decide

theorem toList_valueText_one :
    (valueText (.array [d])).toList = '[' :: ((inline d).toList ++ [']']) := by
  rw [valueText, inline, inlineItems, inlineItems, String.intercalate_singleton,
    String.toList_append, String.toList_append]
  · rfl
  · rintro _ _ _ h
    cases h

theorem toList_valueText_many {a b : Datum} :
    (valueText (.array (a :: b :: items))).toList =
      '[' :: '\n' :: (itemLines (a :: b :: items) ++ [']']) := by
  rw [valueText, String.toList_append, String.toList_append, toList_join_inlineItems]
  rfl

/-- **What is written after a key is read as the value.** -/
theorem value_valueText (h : Plain d) (hfuel : (valueText d).toList.length < fuel)
    (hrest : Follows rest) : value fuel 0 ((valueText d).toList ++ rest) = some (d, rest) := by
  cases h with
  | scalar h =>
    obtain ⟨fuel, rfl⟩ := Nat.exists_eq_add_one_of_ne_zero (by omega : fuel ≠ 0)
    have hinline : valueText d = inline d := by cases h <;> rfl
    rw [hinline]
    exact value_scalar h hrest
  | @array items hitems =>
    match items with
    | [] =>
      rw [toList_valueText_nil] at hfuel ⊢
      obtain ⟨fuel, rfl⟩ : ∃ k, fuel = k + 2 := ⟨fuel - 2, by simp at hfuel; omega⟩
      rw [List.cons_append, List.singleton_append]
      refine value_array ?_
      rw [Toml.items, skipLines_of_halts (by decide)]
      rfl
    | [d] =>
      rw [toList_valueText_one] at hfuel ⊢
      obtain ⟨fuel, rfl⟩ : ∃ k, fuel = k + 3 := ⟨fuel - 3, by simp at hfuel; omega⟩
      have hd := hitems d List.mem_cons_self
      obtain ⟨c, cs, h, hc⟩ := hd.opening
      have hvalue : value (fuel + 1) 1 (c :: (cs ++ ']' :: rest)) = some (d, ']' :: rest) := by
        rw [← List.cons_append, ← h]
        exact value_scalar hd (follows_cons (.inr (.inr rfl)))
      rw [h, List.cons_append, List.append_assoc, List.singleton_append, List.cons_append]
      exact value_array <| items_of_value (skipLines_of_halts (halts_of_isOpening hc))
        (ne_of_isOpening hc (by decide)) (by decide) hvalue
    | a :: b :: ds =>
      rw [toList_valueText_many] at hfuel ⊢
      have hlen := length_le_itemLines (a :: b :: ds)
      obtain ⟨fuel, rfl⟩ : ∃ k, fuel = k + 1 := ⟨fuel - 1, by omega⟩
      rw [List.cons_append, List.cons_append, List.append_assoc, List.singleton_append]
      refine value_array (items_lines hitems ?_)
      simp only [List.length_cons, List.length_append] at hfuel hlen ⊢
      omega

theorem valueText_eq_cons (h : Plain d) :
    ∃ c cs, (valueText d).toList = c :: cs ∧ isBlankChar c = false := by
  cases h with
  | scalar h =>
    obtain ⟨c, cs, hcs, hc⟩ := h.opening
    have hinline : valueText d = inline d := by cases h <;> rfl
    exact ⟨c, cs, hinline ▸ hcs, (halts_of_isOpening hc).1⟩
  | @array items =>
    match items with
    | [] => exact ⟨_, _, toList_valueText_nil, rfl⟩
    | [d] => exact ⟨_, _, toList_valueText_one, rfl⟩
    | a :: b :: ds => exact ⟨_, _, toList_valueText_many, rfl⟩

end Toml
end ClusterTriage
