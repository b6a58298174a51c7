import ClusterTriage.Proofs.Redaction.Key
import ClusterTriage.Proofs.Text.Substitution

/-!
# Redaction keeps the length of a text

The mask of a value takes the value's place and no more: it has as many characters, so that whatever
rules do to each other's work on the way, a text is in the end as long as it was.

> **Masks are well-formed, and texts keep their length** (`masks_are_well_formed_and_keep_lengths`), in
> both directions, for all values and all texts.

None of this is owed to the digest that a key draws its bytes from. Any bytes do (`drawn`), also those
that happen to spell the value, and those of a value that is the run of `x` which would stand in for it.
-/

namespace ClusterTriage
namespace Redaction

/-! ## 1. Well-formed rules -/

/-- A rule with a mask as it should be: of as many characters as the value, each an ASCII letter or
digit, and something else than the value, unless that is empty. -/
structure Rule.WellFormed (r : Rule) : Prop where
  length_eq : r.masked.length = r.unmasked.length
  alphanumeric : ∀ c ∈ r.masked.toList, c.isAlphanum = true
  masked_eq_iff : r.masked = r.unmasked ↔ r.unmasked = ""

/-- The rule that hides a value behind the mask which a stream of bytes draws for it. -/
def drawn (stream : String → Nat → UInt8) (value : String) : Rule :=
  ⟨value, String.ofList (maskOf (stream value) value.toList)⟩

/-- The bytes that a key draws masks with. -/
def Key.bytesFor (k : Key) (value : String) (i : Nat) : UInt8 := (k.stream value).getD i 0

theorem Key.rule_eq (k : Key) : k.rule = drawn k.bytesFor := rfl

theorem isAlphanum_of_mem_maskAlphabet : ∀ c ∈ maskAlphabet, c.isAlphanum = true :=
  List.all_eq_true.mp (by decide)

/-- **Any bytes draw a well-formed mask.** -/
theorem wellFormed_drawn (stream : String → Nat → UInt8) (value : String) :
    (drawn stream value).WellFormed where
  length_eq := by
    rw [drawn, String.length_ofList, length_maskOf, String.length_toList]
  alphanumeric := by
    intro c hc
    rw [drawn, String.toList_ofList] at hc
    exact isAlphanum_of_mem_maskAlphabet c (mem_maskAlphabet_of_mem_maskOf hc)
  masked_eq_iff := by
    rw [drawn, ← String.toList_inj, String.toList_ofList, ← String.toList_eq_nil_iff]
    constructor
    · intro hsame
      by_contra hvalue
      exact maskOf_ne_self (stream value) hvalue hsame
    · intro hempty
      rw [hempty]
      exact List.length_eq_zero_iff.mp (length_maskOf (stream value) [])

-- bytes that spell the value, and those of a value that a run of `x` cannot hide
example : (drawn (fun _ _ => 0) "aa").masked = "xx" := by decide
example : (drawn (fun _ _ => 23) "xx").masked = "yy" := by decide

/-! ## 2. Lengths -/

theorem length_mask_of_length_eq {rules : Rules} (h : ∀ r ∈ rules, r.masked.length = r.unmasked.length)
    (text : String) : (mask rules text).length = text.length := by
  induction rules generalizing text with
  | nil => rfl
  | cons r rest ih =>
    obtain ⟨hr, hrest⟩ := List.forall_mem_cons.mp h
    have hfirst : (r.mask text).length = text.length := Text.length_replaceString hr text
    exact (ih hrest (r.mask text)).trans hfirst

theorem length_unmask_of_length_eq {rules : Rules}
    (h : ∀ r ∈ rules, r.masked.length = r.unmasked.length) (text : String) :
    (unmask rules text).length = text.length := by
  induction rules with
  | nil => rfl
  | cons r rest ih =>
    obtain ⟨hr, hrest⟩ := List.forall_mem_cons.mp h
    have hlast : (unmask (r :: rest) text).length = (unmask rest text).length :=
      Text.length_replaceString hr.symm (unmask rest text)
    exact hlast.trans (ih hrest)

theorem length_eq_of_mem_drawn {stream : String → Nat → UInt8} {values : List String} :
    ∀ r ∈ values.map (drawn stream), r.masked.length = r.unmasked.length := by
  intro r hr
  obtain ⟨value, -, rfl⟩ := List.mem_map.mp hr
  exact (wellFormed_drawn stream value).length_eq

/-- **Masks are well-formed, and texts keep their length.** The mask of any value under any key, or drawn
with any bytes at all, has as many characters as the value, consists of ASCII letters and digits, and is
the value only if that is empty. So rules for any values, in any order and as often as one likes, mask a
text by one that is as long, and unmask it by one that is as long. -/
theorem masks_are_well_formed_and_keep_lengths :
    (∀ (stream : String → Nat → UInt8) (value : String), (drawn stream value).WellFormed) ∧
    (∀ (k : Key) (value : String), (k.rule value).WellFormed) ∧
    (∀ (stream : String → Nat → UInt8) (values : List String) (text : String),
      (mask (values.map (drawn stream)) text).length = text.length ∧
      (unmask (values.map (drawn stream)) text).length = text.length) ∧
    ∀ (k : Key) (values : List String) (text : String),
      (mask (values.map k.rule) text).length = text.length ∧
      (unmask (values.map k.rule) text).length = text.length := by
  have hlengths : ∀ (stream : String → Nat → UInt8) (values : List String) (text : String),
      (mask (values.map (drawn stream)) text).length = text.length ∧
      (unmask (values.map (drawn stream)) text).length = text.length := fun _ _ text =>
    ⟨length_mask_of_length_eq length_eq_of_mem_drawn text,
      length_unmask_of_length_eq length_eq_of_mem_drawn text⟩
  refine ⟨wellFormed_drawn, fun k value => ?_, hlengths, fun k values text => ?_⟩
  · rw [k.rule_eq]
    exact wellFormed_drawn k.bytesFor value
  · rw [k.rule_eq]
    exact hlengths k.bytesFor values text

end Redaction
end ClusterTriage
