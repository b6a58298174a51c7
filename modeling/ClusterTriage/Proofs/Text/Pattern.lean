import ClusterTriage.Text.Pattern
import Mathlib.Computability.Language

/-!
# The texts that fit a pattern

`Pattern.fits` reads a text and rewrites the pattern as it goes. What the pattern was meant to say is
read off its structure instead: alternatives are a union, sequences a product, repetition is Kleene's
star. That is its `language`, and nothing of the reading is in it.

> **A text fits exactly if it is in the language** (`fits_iff`).

The rewriting is a derivative: what follows a first character `c` are the texts that `c` can be put in
front of (`mem_language_after`). Only sequences and repetition take an argument, because there the
first character has to be found in one of several parts.
-/

namespace ClusterTriage
namespace Text
namespace Pattern

open scoped Computability

variable {p q : Pattern} {c : Char} {s : List Char} {l m : Language Char}

/-- The texts that a pattern stands for. -/
def language : Pattern → Language Char
  | .never => 0
  | .empty => 1
  | .one p => {s | ∃ c, p c = true ∧ s = [c]}
  | .either p q => p.language + q.language
  | .seq p q => p.language * q.language
  | .many p => p.language∗

/-! ## 1. First characters -/

theorem nil_mem_mul_iff : [] ∈ l * m ↔ [] ∈ l ∧ [] ∈ m := by
  rw [Language.mem_mul]
  constructor
  · rintro ⟨s, hs, t, ht, hst⟩
    obtain ⟨rfl, rfl⟩ := List.append_eq_nil_iff.mp hst
    exact ⟨hs, ht⟩
  · rintro ⟨hl, hm⟩
    exact ⟨[], hl, [], hm, rfl⟩

/-- The first character of a product belongs to the first part, or that part is empty. -/
theorem cons_mem_mul_iff :
    c :: s ∈ l * m ↔ (∃ t, c :: t ∈ l ∧ ∃ u ∈ m, t ++ u = s) ∨ [] ∈ l ∧ c :: s ∈ m := by
  rw [Language.mem_mul]
  constructor
  · rintro ⟨t, ht, u, hu, hcut⟩
    cases t with
    | nil => exact .inr ⟨ht, hcut ▸ hu⟩
    | cons d t =>
      obtain ⟨rfl, hrest⟩ := List.cons.inj hcut
      exact .inl ⟨t, ht, u, hu, hrest⟩
  · rintro (⟨t, ht, u, hu, rfl⟩ | ⟨hl, hm⟩)
    · exact ⟨c :: t, ht, u, hu, rfl⟩
    · exact ⟨[], hl, c :: s, hm, rfl⟩

/-- The first character of a repetition belongs to the first round that is not empty. -/
theorem cons_mem_kstar_iff : c :: s ∈ l∗ ↔ ∃ t, c :: t ∈ l ∧ ∃ u ∈ l∗, t ++ u = s := by
  constructor
  · intro h
    obtain ⟨rounds, hs, hrounds⟩ := Language.mem_kstar_iff_exists_nonempty.mp h
    cases rounds with
    | nil => cases hs
    | cons round rounds =>
      obtain ⟨⟨hround, hne⟩, hrest⟩ := List.forall_mem_cons.mp hrounds
      obtain ⟨d, t, rfl⟩ := List.exists_cons_of_ne_nil hne
      obtain ⟨rfl, rfl⟩ := List.cons.inj hs
      exact ⟨t, hround, rounds.flatten, Language.join_mem_kstar fun u hu => (hrest u hu).1, rfl⟩
  · rintro ⟨t, ht, u, hu, rfl⟩
    obtain ⟨rounds, rfl, hrounds⟩ := Language.mem_kstar.mp hu
    exact Language.mem_kstar.mpr
      ⟨(c :: t) :: rounds, rfl, List.forall_mem_cons.mpr ⟨ht, hrounds⟩⟩

/-! ## 2. Reading -/

theorem language_orElse (p q : Pattern) : (p.orElse q).language = p.language + q.language := by
  cases p with
  | never => exact (zero_add _).symm
  | _ =>
    cases q with
    | never => exact (add_zero _).symm
    | _ => rfl

theorem language_andThen (p q : Pattern) : (p.andThen q).language = p.language * q.language := by
  cases p with
  | never => exact (zero_mul _).symm
  | empty => exact (one_mul _).symm
  | _ => rfl

theorem fitsEmpty_iff (p : Pattern) : p.fitsEmpty = true ↔ [] ∈ p.language := by
  induction p with
  | never => exact iff_of_false Bool.false_ne_true (Language.notMem_zero [])
  | empty => exact iff_of_true rfl Language.nil_mem_one
  | one p => exact iff_of_false Bool.false_ne_true fun ⟨_, _, h⟩ => nomatch h
  | either p q ihp ihq => rw [fitsEmpty, Bool.or_eq_true, ihp, ihq, language, Language.mem_add]
  | seq p q ihp ihq => rw [fitsEmpty, Bool.and_eq_true, ihp, ihq, language, nil_mem_mul_iff]
  | many p => exact iff_of_true rfl (Language.nil_mem_kstar _)

/-- **What follows a first character** are the texts that it can be put in front of. -/
theorem mem_language_after (p : Pattern) (c : Char) (s : List Char) :
    s ∈ (p.after c).language ↔ c :: s ∈ p.language := by
  induction p generalizing s with
  | never => exact iff_of_false (Language.notMem_zero s) (Language.notMem_zero _)
  | empty => exact iff_of_false (Language.notMem_zero s) (List.cons_ne_nil c s)
  | one p =>
    show s ∈ (if p c then empty else never).language ↔ ∃ d, p d = true ∧ c :: s = [d]
    simp only [List.cons.injEq]
    split
    case isTrue h => exact ⟨fun hs => ⟨c, h, rfl, hs⟩, fun ⟨_, _, _, hs⟩ => hs⟩
    case isFalse h =>
      refine iff_of_false (Language.notMem_zero s) ?_
      rintro ⟨d, hd, rfl, -⟩
      exact h hd
  | either p q ihp ihq =>
    rw [after, language_orElse, language, Language.mem_add, Language.mem_add, ihp, ihq]
  | seq p q ihp ihq =>
    have hfurther : s ∈ ((p.after c).andThen q).language ↔
        ∃ t, c :: t ∈ p.language ∧ ∃ u ∈ q.language, t ++ u = s := by
      simp only [language_andThen, Language.mem_mul, ihp]
    rw [after, language, cons_mem_mul_iff, ← hfurther, ← fitsEmpty_iff, ← ihq]
    split
    case isTrue h => rw [language_orElse, Language.mem_add, and_iff_right h]
    case isFalse h => rw [or_iff_left fun hskip => h hskip.1]
  | many p ih =>
    rw [after, language_andThen, language, cons_mem_kstar_iff]
    simp only [Language.mem_mul, ih]

/-- **A text fits exactly if it is in the language** of the pattern. -/
theorem fits_iff (p : Pattern) (s : List Char) : p.fits s = true ↔ s ∈ p.language := by
  induction s generalizing p with
  | nil => exact p.fitsEmpty_iff
  | cons c s ih => rw [fits, ih, mem_language_after]

/-! ## 3. Classes of characters -/

/-- Any number of characters of a class. -/
theorem mem_language_many_one {p : Char → Bool} :
    s ∈ (many (one p)).language ↔ ∀ c ∈ s, p c = true := by
  constructor
  · intro h c hc
    obtain ⟨rounds, rfl, hrounds⟩ := Language.mem_kstar.mp h
    obtain ⟨round, hround, hc⟩ := List.mem_flatten.mp hc
    obtain ⟨d, hd, rfl⟩ := hrounds round hround
    rwa [List.mem_singleton.mp hc]
  · intro h
    refine Language.mem_kstar.mpr
      ⟨s.map fun c => [c], (List.flatMap_singleton' s).symm, fun round hround => ?_⟩
    obtain ⟨c, hc, rfl⟩ := List.mem_map.mp hround
    exact ⟨c, h c hc, rfl⟩

end Pattern
end Text
end ClusterTriage
