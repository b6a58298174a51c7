import ClusterTriage.Datum.Toml.Printer
import ClusterTriage.Datum.Toml.Parser

/-!
# Strings come back

Four forms are written and four are read, and which one it is shows in the quotes alone.

> **What is written for a string is read as that string** (`quotedString_string`), and what is
> written for a key as that key (`keyPart_keyText`), whatever characters they have.

The forms in triple quotes need the care. Their reader looks at all quotes in a row before it decides
whether they close the string, so a text may hold two in a row at most, also at its very end.
`Spelled` counts the quotes in a row just before; both forms in triple quotes are instances of it.
-/

namespace ClusterTriage
namespace Toml

variable {c q : Char} {run fuel : Nat} {acc cs w rest : List Char} {s : String}

/-! ## 1. Characters -/

/-- Nothing that could be taken for a further quote. -/
def Apart (rest : List Char) : Prop := ∀ c ∈ rest.head?, c ≠ '"' ∧ c ≠ '\''

theorem apart_cons (h : c ≠ '"' ∧ c ≠ '\'') : Apart (c :: rest) := by
  intro d hd
  obtain rfl : c = d := Option.some.inj hd
  exact h

theorem isPlain_of_not_needsEscape (h : needsEscape c = false) (hc : c ≠ '\n') :
    isPlain c = true := by
  unfold needsEscape at h
  unfold isPlain
  by_cases ht : c = '\t'
  · simp [ht]
  · simp only [bne_iff_ne.mpr ht, bne_iff_ne.mpr hc, Bool.true_and, Bool.or_eq_false_iff,
      decide_eq_false_iff_not, Nat.not_lt, beq_eq_false_iff_ne] at h
    simp [h.1, h.2]

theorem newline?_cons (hbreak : c ≠ '\n') (hreturn : c ≠ '\r') : newline? (c :: rest) = none := by
  unfold newline?
  split
  · rename_i h
    exact absurd (List.cons.inj h).1 hbreak
  · rename_i h
    exact absurd (List.cons.inj h).1 hreturn
  · rfl

theorem value?_upperDigit : ∀ n < 16, Encoding.Hex.value? (upperDigit n) = some n := by decide

theorem escaped_hex (h : needsEscape c = true) :
    escaped ('u' :: '0' :: '0' :: upperDigit (c.toNat / 16) :: upperDigit (c.toNat % 16) :: rest) =
      some (c, rest) := by
  have hsmall : c.toNat < 0x80 := by
    simp only [needsEscape, Bool.and_eq_true, Bool.or_eq_true, decide_eq_true_eq, beq_iff_eq] at h
    omega
  have hzero : Encoding.Hex.value? '0' = some 0 := by decide
  have hnumber : Encoding.Hex.toNat?
      ['0', '0', upperDigit (c.toNat / 16), upperDigit (c.toNat % 16)] = some c.toNat := by
    simp only [Encoding.Hex.toNat?, List.foldlM_cons, List.foldlM_nil, hzero,
      value?_upperDigit _ (by omega : c.toNat / 16 < 16),
      value?_upperDigit _ (by omega : c.toNat % 16 < 16), Option.map_some, Option.pure_def,
      Option.bind_eq_bind, Option.bind_some]
    congr 1
    omega
  rw [escaped, codePoint]
  simp only [List.take_succ_cons, List.take_zero, hnumber, List.length_cons, List.length_nil,
    List.drop_succ_cons, List.drop_zero, Option.bind_eq_bind, Option.bind_some]
  rw [if_neg (by omega), if_pos (by omega), Char.ofNat_toNat]

/-- Every character but a quote is written so that it is either an escape or stands for itself. -/
theorem escapeOf_cases (oneLine : Bool) (c : Char) :
    (∃ e, escapeOf oneLine c = '\\' :: e ∧ (∀ rest, escaped (e ++ rest) = some (c, rest)) ∧
      ∃ d e', e = d :: e' ∧ isBlankChar d = false ∧ d ≠ '\n' ∧ d ≠ '\r') ∨
    escapeOf oneLine c = [c] ∧ c ≠ '\\' ∧ needsEscape c = false ∧ (oneLine = true → c ≠ '\n') := by
  unfold escapeOf
  split
  · subst_vars
    exact .inl ⟨_, rfl, fun _ => rfl, _, _, rfl, by decide, by decide, by decide⟩
  split
  · subst_vars
    exact .inl ⟨_, rfl, fun _ => rfl, _, _, rfl, by decide, by decide, by decide⟩
  split
  · subst_vars
    cases oneLine with
    | true => exact .inl ⟨_, rfl, fun _ => rfl, _, _, rfl, by decide, by decide, by decide⟩
    | false => exact .inr ⟨rfl, by decide, by decide, nofun⟩
  split
  · subst_vars
    exact .inl ⟨_, rfl, fun _ => rfl, _, _, rfl, by decide, by decide, by decide⟩
  split
  · subst_vars
    exact .inl ⟨_, rfl, fun _ => rfl, _, _, rfl, by decide, by decide, by decide⟩
  split
  · subst_vars
    exact .inl ⟨_, rfl, fun _ => rfl, _, _, rfl, by decide, by decide, by decide⟩
  split
  · rename_i h
    exact .inl ⟨_, rfl, fun _ => escaped_hex h, _, _, rfl, by decide, by decide, by decide⟩
  · rename_i hbreak _ _ hslash h
    exact .inr ⟨rfl, hslash, by simpa using h, fun _ => hbreak⟩

theorem length_le_escapeOf (oneLine : Bool) (c : Char) : 1 ≤ (escapeOf oneLine c).length := by
  rcases escapeOf_cases oneLine c with ⟨e, h, -⟩ | ⟨h, -⟩ <;> simp [h]

theorem length_le_escapedFrom (oneLine : Bool) (spare : Nat) :
    ∀ run cs, cs.length ≤ (escapedFrom oneLine spare run cs).length := by
  intro run cs
  induction cs generalizing run with
  | nil => exact Nat.zero_le _
  | cons c cs ih =>
    have hrest := ih 0
    rw [escapedFrom]
    split
    · split
      · simpa using ih (run + 1)
      · simp only [List.length_cons]
        omega
    · have hone := length_le_escapeOf oneLine c
      simp only [List.length_cons, List.length_append]
      omega

/-! ## 2. Strings on one line -/

theorem basic_escapeOf (hc : c ≠ '"') :
    basic (fuel + 1) acc (escapeOf true c ++ rest) = basic fuel (c :: acc) rest := by
  rcases escapeOf_cases true c with ⟨e, h, hescaped, -⟩ | ⟨h, hslash, hplain, hbreak⟩
  · rw [h, List.cons_append, basic, hescaped]
    rfl
  · rw [h, List.singleton_append, basic]
    · rw [if_pos (isPlain_of_not_needsEscape hplain (hbreak rfl))]
    · exact hc
    · exact hslash

theorem basic_escapedFrom (h : cs.length < fuel) :
    basic fuel acc (escapedFrom true 0 run cs ++ '"' :: rest) =
      some (String.ofList (acc.reverse ++ cs), rest) := by
  -- the fuel is spent on characters that are meant, however long they are written
  induction cs generalizing fuel acc run with
  | nil =>
    obtain ⟨fuel, rfl⟩ := Nat.exists_eq_add_one_of_ne_zero (by omega : fuel ≠ 0)
    rw [List.append_nil]
    rfl
  | cons c cs ih =>
    obtain ⟨fuel, rfl⟩ := Nat.exists_eq_add_one_of_ne_zero (by omega : fuel ≠ 0)
    have hread : basic fuel (c :: acc) (escapedFrom true 0 0 cs ++ '"' :: rest) =
        some (String.ofList (acc.reverse ++ c :: cs), rest) := by
      rw [ih (by simpa using h), List.reverse_cons, List.append_assoc, List.singleton_append]
    rw [escapedFrom]
    by_cases hc : c = '"'
    · subst hc
      rw [if_pos rfl, if_neg (Nat.not_lt_zero run)]
      exact hread
    · rw [if_neg hc, List.append_assoc, basic_escapeOf hc, hread]

theorem literal_append (hquote : '\'' ∉ cs) (hplain : ∀ c ∈ cs, isPlain c = true) :
    literal (cs ++ '\'' :: rest) = some (String.ofList cs, rest) := by
  have hne : ∀ c ∈ cs, (c != '\'') = true := fun c hc =>
    bne_iff_ne.mpr fun (h : c = '\'') => hquote (h ▸ hc)
  have htake : (cs ++ '\'' :: rest).takeWhile (· != '\'') = cs := by
    rw [List.takeWhile_append_of_pos hne, List.takeWhile_cons_of_neg (by simp), List.append_nil]
  have hdrop : (cs ++ '\'' :: rest).dropWhile (· != '\'') = '\'' :: rest := by
    rw [List.dropWhile_append_of_pos hne, List.dropWhile_cons_of_neg (by simp)]
  simp only [literal, htake, hdrop]
  rw [if_pos (List.all_eq_true.mpr hplain)]

/-! ## 3. Strings on several lines -/

/-- What may stand between triple quotes of a kind, and what it means; `run` of the quotes stand just
before, and there are never three in a row. -/
inductive Spelled (q : Char) : (run : Nat) → (written meant : List Char) → Prop where
  | nil {run : Nat} : Spelled q run [] []
  | quote {run : Nat} {w cs : List Char} :
      run < 2 → Spelled q (run + 1) w cs → Spelled q run (q :: w) (q :: cs)
  | char {run : Nat} {c d : Char} {p w cs : List Char} :
      d ≠ q →
      (∀ fuel acc rest,
        multiline q (fuel + 1) acc (d :: (p ++ rest)) = multiline q fuel (c :: acc) rest) →
      Spelled q 0 w cs → Spelled q run (d :: (p ++ w)) (c :: cs)

/-- The quotes at the start of what is left to read. -/
def leading (q : Char) (cs : List Char) : Nat := (cs.takeWhile (· == q)).length

theorem leading_cons_self : leading q (q :: cs) = leading q cs + 1 := by
  simp [leading]

theorem leading_cons_of_ne (h : c ≠ q) : leading q (c :: cs) = 0 := by
  simp [leading, h]

theorem leading_replicate (k : Nat) (h : ∀ c ∈ rest.head?, c ≠ q) :
    leading q (List.replicate k q ++ rest) = k := by
  induction k with
  | zero =>
    cases rest with
    | nil => rfl
    | cons c rest => exact leading_cons_of_ne (h c rfl)
  | succ k ih => rw [List.replicate_succ, List.cons_append, leading_cons_self, ih]

/-- Three quotes in a row are those that close the string, with the last quotes of the text. -/
theorem Spelled.leading_lt_three (h : Spelled q run w cs) (hrun : run ≤ 2)
    (hthree : 3 ≤ run + leading q (w ++ rest)) :
    ∃ k, w = List.replicate k q ∧ cs = List.replicate k q ∧ run + k ≤ 2 := by
  induction h with
  | nil => exact ⟨0, rfl, rfl, hrun⟩
  | quote hlt _ ih =>
    rw [List.cons_append, leading_cons_self] at hthree
    obtain ⟨k, rfl, rfl, hk⟩ := ih (by omega) (by omega)
    exact ⟨k + 1, rfl, rfl, by omega⟩
  | char hd =>
    rw [List.cons_append, leading_cons_of_ne hd] at hthree
    omega

theorem multiline_quote (h : leading q cs + 1 < 3) :
    multiline q (fuel + 1) acc (q :: cs) = multiline q fuel (q :: acc) cs := by
  have hcount : ((q :: cs).takeWhile (· == q)).length < 3 := by
    have hone : leading q (q :: cs) = leading q cs + 1 := leading_cons_self
    unfold leading at hone h
    omega
  rw [multiline, if_pos rfl]
  exact if_pos hcount

theorem multiline_close {k : Nat} (hk : k ≤ 2) (hrest : ∀ c ∈ rest.head?, c ≠ q) :
    multiline q (fuel + 1) acc (List.replicate (k + 3) q ++ rest) =
      some (String.ofList (acc.reverse ++ List.replicate k q), rest) := by
  have hcount := leading_replicate (q := q) (k + 3) hrest
  have hcons : List.replicate (k + 3) q ++ rest = q :: (List.replicate (k + 2) q ++ rest) := rfl
  unfold leading at hcount
  rw [hcons] at hcount ⊢
  rw [multiline, if_pos rfl]
  simp only [hcount]
  rw [if_neg (by omega), ← hcons]
  have hkept : min (k + 3 - 3) 2 = k := by omega
  rw [hkept, List.drop_left' (by rw [List.length_replicate])]

theorem multiline_spelled (h : Spelled q run w cs) (hrun : run ≤ 2) (hfuel : cs.length < fuel)
    (hrest : ∀ c ∈ rest.head?, c ≠ q) :
    multiline q fuel acc (w ++ (List.replicate 3 q ++ rest)) =
      some (String.ofList (acc.reverse ++ cs), rest) := by
  induction h generalizing fuel acc with
  | nil =>
    obtain ⟨fuel, rfl⟩ := Nat.exists_eq_add_one_of_ne_zero (by omega : fuel ≠ 0)
    exact multiline_close (Nat.zero_le 2) hrest
  | @quote run w cs hlt hw ih =>
    obtain ⟨fuel, rfl⟩ := Nat.exists_eq_add_one_of_ne_zero (by omega : fuel ≠ 0)
    by_cases hcount : leading q (w ++ (List.replicate 3 q ++ rest)) + 1 < 3
    · rw [List.cons_append, multiline_quote hcount, ih (by omega) (by simpa using hfuel),
        List.reverse_cons, List.append_assoc, List.singleton_append]
    · -- the quote belongs to those that close the string
      have hthree : 3 ≤ run + 1 + leading q (w ++ (List.replicate 3 q ++ rest)) := by omega
      obtain ⟨k, rfl, rfl, hk⟩ := hw.leading_lt_three (by omega) hthree
      have hall : q :: List.replicate k q ++ (List.replicate 3 q ++ rest) =
          List.replicate (k + 1 + 3) q ++ rest := by
        rw [← List.append_assoc, ← List.replicate_succ, List.replicate_append_replicate]
      rw [hall, multiline_close (by omega) hrest]
      rfl
  | char hd hstep hw ih =>
    obtain ⟨fuel, rfl⟩ := Nat.exists_eq_add_one_of_ne_zero (by omega : fuel ≠ 0)
    rw [List.cons_append, List.append_assoc, hstep, ih (by omega) (by simpa using hfuel),
      List.reverse_cons, List.append_assoc, List.singleton_append]

/-- The reader takes up a character that is not a quote as it was written. -/
theorem Spelled.escape {e : List Char} {d : Char} (hblank : isBlankChar d = false) (hbreak : d ≠ '\n')
    (hreturn : d ≠ '\r') (hescaped : ∀ rest, escaped (d :: (e ++ rest)) = some (c, rest))
    (h : Spelled '"' 0 w cs) : Spelled '"' run ('\\' :: (d :: e ++ w)) (c :: cs) := by
  refine .char (by decide) (fun fuel acc rest => ?_) h
  have hline : newline? ((d :: (e ++ rest)).dropWhile isBlankChar) = none := by
    rw [List.dropWhile_cons_of_neg (by simp [hblank]), newline?_cons hbreak hreturn]
  rw [multiline, if_neg (by decide), if_pos ⟨rfl, rfl⟩, List.cons_append, hline]
  simp only [hescaped]

theorem Spelled.plain (hq : c ≠ q) (hslash : c = '\\' → q ≠ '"') (hplain : needsEscape c = false)
    (h : Spelled q 0 w cs) : Spelled q run (c :: w) (c :: cs) := by
  have hreturn : c ≠ '\r' := by
    rintro rfl
    exact absurd hplain (by decide)
  refine .char (p := []) hq (fun fuel acc rest => ?_) h
  rw [List.nil_append, multiline, if_neg hq, if_neg fun ⟨hc, hq⟩ => hslash hc hq]
  by_cases hbreak : c = '\n'
  · subst hbreak
    rfl
  · rw [newline?_cons hbreak hreturn]
    exact if_pos (isPlain_of_not_needsEscape hplain hbreak)

theorem spelled_escapedFrom (hrun : run ≤ 2) : Spelled '"' run (escapedFrom false 2 run cs) cs := by
  induction cs generalizing run with
  | nil => exact .nil
  | cons c cs ih =>
    rw [escapedFrom]
    split
    · subst_vars
      split
      · exact .quote ‹_› (ih (by omega))
      · exact .escape (e := []) (by decide) (by decide) (by decide) (fun _ => rfl) (ih (Nat.zero_le 2))
    · rename_i hc
      rcases escapeOf_cases false c with ⟨_, h, hescaped, d, e, rfl, hblank, hbreak, hreturn⟩ |
        ⟨h, hslash, hplain, -⟩
      · rw [h]
        exact .escape hblank hbreak hreturn hescaped (ih (Nat.zero_le 2))
      · rw [h]
        exact .plain hc (fun h => absurd h hslash) hplain (ih (Nat.zero_le 2))

theorem le_longestRun : run ≤ longestRun q run cs := by
  induction cs generalizing run with
  | nil => exact Nat.le_refl _
  | cons c cs ih =>
    rw [longestRun]
    split
    · exact Nat.le_trans (Nat.le_succ run) ih
    · exact Nat.le_max_left ..

theorem spelled_of_longestRun (h : longestRun '\'' run cs ≤ 2) (hplain : cs.any needsEscape = false) :
    Spelled '\'' run cs cs := by
  induction cs generalizing run with
  | nil => exact .nil
  | cons c cs ih =>
    rw [List.any_cons, Bool.or_eq_false_iff] at hplain
    rw [longestRun] at h
    split at h
    · subst_vars
      have := Nat.le_trans le_longestRun h
      exact .quote (by omega) (ih h hplain.2)
    · have hrest := ih (Nat.le_trans (Nat.le_max_right ..) h) hplain.2
      exact .plain ‹_› (fun _ => by decide) hplain.1 hrest

/-! ## 4. All forms -/

theorem toList_between (quotes : String) (multiline hasBreak : Bool) (inside : List Char) :
    (between quotes multiline hasBreak inside).toList =
      quotes.toList ++
        ((if multiline && hasBreak then ['\n'] else []) ++ (inside ++ quotes.toList)) := by
  unfold between
  split <;> simp

/-- The first character that is written for a text is a quote or an escape, or the text's own. -/
theorem head?_escapedFrom (oneLine : Bool) (spare : Nat) :
    ∀ d ∈ (escapedFrom oneLine spare run cs).head?, d = '\\' ∨ cs.head? = some d ∧
      (d = '"' → run < spare) ∧ (d = '"' ∨ needsEscape d = false) := by
  intro d hd
  cases cs with
  | nil => cases hd
  | cons c cs =>
    rw [escapedFrom] at hd
    split at hd
    · subst_vars
      split at hd
      · obtain rfl := Option.some.inj hd
        exact .inr ⟨rfl, fun _ => ‹_›, .inl rfl⟩
      · exact .inl (Option.some.inj hd).symm
    · rename_i hc
      rcases escapeOf_cases oneLine c with ⟨e, h, -⟩ | ⟨h, -, hplain, -⟩
      · rw [h] at hd
        exact .inl (Option.some.inj hd).symm
      · rw [h] at hd
        obtain rfl := Option.some.inj hd
        exact .inr ⟨rfl, fun h => absurd h hc, .inr hplain⟩

theorem quotedString_double {asKey : Bool} (h : ∀ tail, cs ≠ '"' :: '"' :: tail) :
    quotedString asKey ('"' :: cs) = basic (cs.length + 2) [] cs := by
  unfold quotedString
  split <;> simp_all

theorem quotedString_single {asKey : Bool} (h : ∀ tail, cs ≠ '\'' :: '\'' :: tail) :
    quotedString asKey ('\'' :: cs) = literal cs := by
  unfold quotedString
  split <;> simp_all

/-- A string on one line has no further quote after its first one, unless it is empty. -/
theorem ne_two_quotes (hw : ∀ d ∈ w.head?, d ≠ q) (hrest : ∀ d ∈ rest.head?, d ≠ q) :
    ∀ tail, w ++ q :: rest ≠ q :: q :: tail := by
  intro tail h
  cases w with
  | nil =>
    rw [List.nil_append] at h
    exact hrest q (by rw [(List.cons.inj h).2]; rfl) rfl
  | cons d w => exact hw d rfl (List.cons.inj h).1

theorem quotedString_basic (asKey : Bool) (hrest : Apart rest) :
    quotedString asKey ('"' :: (escapedFrom true 0 0 cs ++ '"' :: rest)) =
      some (String.ofList cs, rest) := by
  have hhead : ∀ d ∈ (escapedFrom true 0 0 cs).head?, d ≠ '"' := fun d hd hquote => by
    rcases head?_escapedFrom true 0 d hd with h | ⟨-, h, -⟩
    · exact absurd (h.symm.trans hquote) (by decide)
    · exact absurd (h hquote) (Nat.not_lt_zero 0)
  have hlen := length_le_escapedFrom true 0 0 cs
  rw [quotedString_double (ne_two_quotes hhead fun d hd => (hrest d hd).1),
    basic_escapedFrom (by rw [List.length_append]; omega)]
  rfl

theorem quotedString_literal (asKey : Bool) (hquote : '\'' ∉ cs) (hplain : ∀ c ∈ cs, isPlain c = true)
    (hrest : Apart rest) :
    quotedString asKey ('\'' :: (cs ++ '\'' :: rest)) = some (String.ofList cs, rest) := by
  have hhead : ∀ d ∈ cs.head?, d ≠ '\'' := fun d hd h =>
    hquote (h ▸ List.mem_of_mem_head? hd)
  rw [quotedString_single (ne_two_quotes hhead fun d hd => (hrest d hd).2),
    literal_append hquote hplain]

/-- A string in triple quotes may start on a line of its own. -/
theorem quotedString_triple (hq : q = '"' ∨ q = '\'') (hw : Spelled q 0 w cs)
    (hlen : cs.length ≤ w.length) (hasBreak : Bool)
    (hhead : hasBreak = false → ∀ d ∈ w.head?, d ≠ '\n' ∧ d ≠ '\r') (hrest : Apart rest) :
    quotedString false
        ([q, q, q] ++ ((if hasBreak then ['\n'] else []) ++ (w ++ ([q, q, q] ++ rest)))) =
      some (String.ofList cs, rest) := by
  have hread : ∀ fuel, cs.length < fuel → multiline q fuel [] (w ++ ([q, q, q] ++ rest)) =
      some (String.ofList cs, rest) := fun fuel hfuel =>
    multiline_spelled hw (Nat.zero_le 2) hfuel fun d hd => by
      rcases hq with rfl | rfl
      · exact (hrest d hd).1
      · exact (hrest d hd).2
  have hinside : (newline? ((if hasBreak then ['\n'] else []) ++ (w ++ ([q, q, q] ++ rest)))).getD
      ((if hasBreak then ['\n'] else []) ++ (w ++ ([q, q, q] ++ rest))) =
        w ++ ([q, q, q] ++ rest) := by
    cases hasBreak with
    | true => rfl
    | false =>
      have hnone : newline? (w ++ ([q, q, q] ++ rest)) = none := by
        cases w with
        | nil =>
          rcases hq with rfl | rfl
          · exact newline?_cons (by decide) (by decide)
          · exact newline?_cons (by decide) (by decide)
        | cons d w => exact newline?_cons (hhead rfl d rfl).1 (hhead rfl d rfl).2
      simp only [Bool.false_eq_true, if_false, List.nil_append, hnone, Option.getD_none]
  rcases hq with rfl | rfl
  all_goals
    simp only [List.cons_append, List.nil_append] at hinside hread ⊢
    rw [quotedString]
    simp only [hinside]
    exact hread _ (by simp; omega)

theorem quotedString_tripleBasic (hrest : Apart rest) :
    quotedString false ((between "\"\"\"" true (cs.contains '\n') (escapedFrom false 2 0 cs)).toList
      ++ rest) = some (String.ofList cs, rest) := by
  have hhead : cs.contains '\n' = false → ∀ d ∈ (escapedFrom false 2 0 cs).head?,
      d ≠ '\n' ∧ d ≠ '\r' := fun hbreak d hd => by
    rcases head?_escapedFrom false 2 d hd with rfl | ⟨hcs, -, hplain⟩
    · decide
    · constructor
      · rintro rfl
        have := List.mem_of_mem_head? hcs
        simp_all
      · rintro rfl
        exact absurd hplain (by decide)
  rw [toList_between]
  simpa using quotedString_triple (.inl rfl) (spelled_escapedFrom (Nat.zero_le 2))
    (length_le_escapedFrom false 2 0 cs) (cs.contains '\n') hhead hrest

theorem quotedString_tripleLiteral (hplain : cs.any needsEscape = false)
    (hrun : longestRun '\'' 0 cs ≤ 2) (hrest : Apart rest) :
    quotedString false ((between "\'\'\'" true (cs.contains '\n') cs).toList ++ rest) =
      some (String.ofList cs, rest) := by
  have hhead : cs.contains '\n' = false → ∀ d ∈ cs.head?, d ≠ '\n' ∧ d ≠ '\r' := fun hbreak d hd => by
    have hmem := List.mem_of_mem_head? hd
    constructor
    · rintro rfl
      simp_all
    · rintro rfl
      have := List.any_eq_false.mp hplain _ hmem
      exact absurd rfl this
  rw [toList_between]
  simpa using quotedString_triple (.inr rfl) (spelled_of_longestRun hrun hplain) (Nat.le_refl _)
    (cs.contains '\n') hhead hrest

theorem quotedString_between_basic {asKey hasBreak : Bool} (hrest : Apart rest) :
    quotedString asKey ((between "\"" false hasBreak (escapedFrom true 0 0 cs)).toList ++ rest) =
      some (String.ofList cs, rest) := by
  rw [toList_between]
  simpa using quotedString_basic asKey hrest

theorem quotedString_between_literal {asKey hasBreak : Bool} (hplain : cs.any needsEscape = false)
    (hbreak : cs.contains '\n' = false) (hquote : cs.contains '\'' = false) (hrest : Apart rest) :
    quotedString asKey ((between "'" false hasBreak cs).toList ++ rest) =
      some (String.ofList cs, rest) := by
  have hall : ∀ c ∈ cs, isPlain c = true := fun c hc => by
    refine isPlain_of_not_needsEscape (by simpa using List.any_eq_false.mp hplain c hc) ?_
    rintro rfl
    simp_all
  rw [toList_between]
  simpa using quotedString_literal asKey (by simpa using hquote) hall hrest

/-- **What is written for a string is read as that string.** -/
theorem quotedString_string (hrest : Apart rest) :
    quotedString false ((string s).toList ++ rest) = some (s, rest) := by
  have hs := String.ofList_toList (s := s)
  unfold string
  simp only
  split
  · rw [quotedString_between_basic hrest, hs]
  split
  · rename_i h
    simp only [Bool.and_eq_true, Bool.not_eq_true'] at h
    rw [quotedString_between_literal h.1.1 h.2 h.1.2 hrest, hs]
  split
  · rw [quotedString_tripleBasic hrest, hs]
  split
  · rename_i h
    simp only [Bool.and_eq_true, Bool.not_eq_true', decide_eq_true_eq] at h
    rw [quotedString_tripleLiteral h.1 h.2 hrest, hs]
  split
  · rw [quotedString_tripleBasic hrest, hs]
  · rw [quotedString_between_basic hrest, hs]

theorem isBareKeyChar_eq : isBareKeyChar c = isBareChar c := by
  unfold isBareKeyChar isBareChar Number.isDigit
  cases decide ('0' ≤ c) && decide (c ≤ '9') <;> cases decide ('a' ≤ c) && decide (c ≤ 'z') <;>
    cases decide ('A' ≤ c) && decide (c ≤ 'Z') <;> cases c == '_' <;> cases c == '-' <;> rfl

theorem keyPart_bare (hs : cs ≠ []) (hall : cs.all isBareChar = true)
    (hrest : ∀ c ∈ rest.head?, isBareKeyChar c = false) :
    keyPart (cs ++ rest) = some (String.ofList cs, rest) := by
  have hbare : ∀ c ∈ cs, isBareKeyChar c = true := fun c hc =>
    isBareKeyChar_eq.trans (List.all_eq_true.mp hall c hc)
  have hstop : rest.takeWhile isBareKeyChar = [] ∧ rest.dropWhile isBareKeyChar = rest := by
    cases rest with
    | nil => exact ⟨rfl, rfl⟩
    | cons c rest => simp [hrest c rfl]
  have htake : (cs ++ rest).takeWhile isBareKeyChar = cs := by
    rw [List.takeWhile_append_of_pos hbare, hstop.1, List.append_nil]
  have hdrop : (cs ++ rest).dropWhile isBareKeyChar = rest := by
    rw [List.dropWhile_append_of_pos hbare, hstop.2]
  -- a quote is not the start of a bare key
  have hquote : ∀ q tail, isBareKeyChar q = false → cs ++ rest ≠ q :: tail := fun q tail hq h => by
    obtain ⟨c, cs, rfl⟩ := List.exists_cons_of_ne_nil hs
    obtain rfl := (List.cons.inj h).1
    exact absurd ((hbare _ List.mem_cons_self).symm.trans hq) (by decide)
  unfold keyPart
  split
  · exact absurd ‹_› (hquote '"' _ (by decide))
  · exact absurd ‹_› (hquote '\'' _ (by decide))
  · simp [htake, hdrop, hs]

theorem keyPart_between (hq : q = '"' ∨ q = '\'') {hasBreak : Bool} :
    keyPart ((between (String.singleton q) false hasBreak w).toList ++ rest) =
      quotedString true ((between (String.singleton q) false hasBreak w).toList ++ rest) := by
  rw [toList_between]
  rcases hq with rfl | rfl <;> rfl

/-- **What is written for a key is read as that key.** -/
theorem keyPart_keyText (hrest : Apart rest) (hkey : ∀ c ∈ rest.head?, isBareKeyChar c = false) :
    keyPart ((keyText s).toList ++ rest) = some (s, rest) := by
  have hs := String.ofList_toList (s := s)
  unfold keyText
  simp only
  split
  · rename_i h
    simp only [Bool.and_eq_true, Bool.not_eq_true', List.isEmpty_eq_false_iff] at h
    rw [keyPart_bare h.1 h.2 hkey, hs]
  split
  · rename_i h
    simp only [Bool.and_eq_true, Bool.not_eq_true'] at h
    exact (keyPart_between (.inr rfl)).trans
      ((quotedString_between_literal h.1.2.1 h.1.2.2 h.2 hrest).trans (by rw [hs]))
  · exact (keyPart_between (.inl rfl)).trans
      ((quotedString_between_basic hrest).trans (by rw [hs]))

end Toml
end ClusterTriage
