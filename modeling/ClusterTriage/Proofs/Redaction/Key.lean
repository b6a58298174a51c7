import ClusterTriage.Redaction.Key
import Mathlib.Data.Finset.Card
import Mathlib.Data.List.GetD

/-!
# Masks of a key

> **A mask is as long as its value and never the value itself** (`Key.length_mask`, `Key.mask_ne_self`),
> whatever bytes the stream brings.

What a mask cannot be is peculiar to its value: it is made of 62 letters (`mem_maskAlphabet_of_mem_mask`),
and there are more values than that (`Key.exists_alike`).
-/

namespace ClusterTriage
namespace Redaction

theorem length_spell (stream : Nat → UInt8) (n : Nat) : (spell stream n).length = n := by
  rw [spell, List.length_map, List.length_range]

theorem length_maskOf (stream : Nat → UInt8) (value : List Char) :
    (maskOf stream value).length = value.length := by
  unfold maskOf
  dsimp only
  split
  · split
    · exact List.length_replicate
    · exact List.length_replicate
  · exact length_spell stream value.length

theorem maskLetter_mem (b : UInt8) : maskLetter b ∈ maskAlphabet := by
  have hbound : b.toNat % 62 < maskAlphabet.length := Nat.mod_lt _ (by decide)
  rw [maskLetter, List.getD_eq_getElem _ _ hbound]
  exact List.getElem_mem hbound

theorem mem_maskAlphabet_of_mem_maskOf {stream : Nat → UInt8} {value : List Char} {c : Char}
    (h : c ∈ maskOf stream value) : c ∈ maskAlphabet := by
  unfold maskOf at h
  dsimp only at h
  split at h
  · split at h
    · rw [List.eq_of_mem_replicate h]
      decide
    · rw [List.eq_of_mem_replicate h]
      decide
  · obtain ⟨i, -, rfl⟩ := List.mem_map.mp h
    exact maskLetter_mem (stream i)

theorem maskOf_ne_self (stream : Nat → UInt8) {value : List Char} (h : value ≠ []) :
    maskOf stream value ≠ value := by
  unfold maskOf
  dsimp only
  split
  · split
    · rename_i hx
      -- a run of `x` is no run of `y`, unless both are empty
      intro hy
      obtain ⟨n, hn⟩ := Nat.exists_eq_succ_of_ne_zero (mt List.length_eq_zero_iff.mp h)
      rw [← hx, List.length_replicate, hn] at hy
      exact absurd (List.cons.inj hy).1 (by decide)
    · rename_i hx
      exact hx
  · rename_i hspelled
    exact hspelled

namespace Key

variable (k : Key)

theorem length_mask (value : String) : (k.mask value).toList.length = value.toList.length := by
  rw [mask, String.toList_ofList]
  exact length_maskOf _ value.toList

theorem mem_maskAlphabet_of_mem_mask {value : String} {c : Char} (h : c ∈ (k.mask value).toList) :
    c ∈ maskAlphabet := by
  rw [mask, String.toList_ofList] at h
  exact mem_maskAlphabet_of_mem_maskOf h

theorem mask_ne_self {value : String} (h : value ≠ "") : k.mask value ≠ value := by
  intro heq
  have hlist := congrArg String.toList heq
  rw [mask, String.toList_ofList] at hlist
  exact maskOf_ne_self _ (mt String.toList_eq_nil_iff.mp h) hlist

theorem mask_ne_empty {value : String} (h : value ≠ "") : k.mask value ≠ "" := by
  intro hempty
  have hlength := k.length_mask value
  rw [hempty] at hlength
  exact h (String.toList_eq_nil_iff.mp (List.length_eq_zero_iff.mp hlength.symm))

/-- The mask of one character is one letter. -/
theorem exists_letter (c : Char) :
    ∃ d ∈ maskAlphabet, k.mask (String.singleton c) = String.singleton d := by
  have hlength : (k.mask (String.singleton c)).toList.length = 1 := by
    rw [length_mask, String.toList_singleton, List.length_singleton]
  obtain ⟨d, hd⟩ := List.length_eq_one_iff.mp hlength
  refine ⟨d, k.mem_maskAlphabet_of_mem_mask (hd ▸ List.mem_singleton_self d), ?_⟩
  rw [← String.toList_inj, hd, String.toList_singleton]

/-- **Two values have one mask**, whatever the key: the letters and one character more are too many to
have masks of their own. -/
theorem exists_alike : ∃ a b : String, a ≠ "" ∧ b ≠ "" ∧ a ≠ b ∧ k.mask a = k.mask b := by
  choose letter hletter hmask using k.exists_letter
  have hfewer : maskAlphabet.toFinset.card < ('-' :: maskAlphabet).toFinset.card := by
    rw [List.toFinset_card_of_nodup (by decide), List.toFinset_card_of_nodup (by decide)]
    exact Nat.lt_succ_self _
  obtain ⟨c, -, d, -, hne, hsame⟩ := Finset.exists_ne_map_eq_of_card_lt_of_maps_to hfewer
    fun c _ => List.mem_toFinset.mpr (hletter c)
  refine ⟨.singleton c, .singleton d, String.singleton_ne_empty, String.singleton_ne_empty,
    mt String.singleton_inj.mp hne, ?_⟩
  rw [hmask, hmask]
  exact congrArg String.singleton hsame

end Key
end Redaction
end ClusterTriage
