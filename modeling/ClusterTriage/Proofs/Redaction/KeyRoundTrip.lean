import ClusterTriage.Proofs.Redaction.Key
import ClusterTriage.Proofs.Redaction.Pieces

/-!
# When the masks of a key come off

A key draws the mask of a value without looking at any other value, and from the letters that values are
made of. So nothing keeps two values from having one mask, or a mask from having a value in it.

> **A text comes back if it is unambiguous under its masks** (`masks_of_a_key_come_off`).

Values need not be disjoint, and none has to come up only once. For the texts that are made of values,
one after another, it is enough that the words themselves are apart and that no mask ends as it begins
(`joined_values_come_back`).

> **No key meets this for all values**: of more values than there are letters, two have one mask, and then
> the one comes back as the other (`every_key_takes_a_value_for_another`).
-/

namespace ClusterTriage
namespace Redaction

variable {rules : Rules} {r : Rule} {ps : List Piece}

/-! ## 1. Texts made of values -/

/-- Masks that do not begin again within themselves. -/
def Unbordered (rules : Rules) : Prop :=
  ∀ r ∈ rules, ¬ Text.RunsInto r.masked.toList.tail r.masked.toList

instance (rules : Rules) : Decidable (Unbordered rules) :=
  inferInstanceAs (Decidable (∀ r ∈ rules, ¬ Text.RunsInto r.masked.toList.tail r.masked.toList))

/-- No mask stands in a text that is made of values. -/
theorem Apart.not_occurs (h : Apart rules) (hr : r ∈ rules) (hmask : r.masked ≠ "")
    {parts : List String} (hparts : ∀ v ∈ parts, v ∈ rules.map Rule.unmasked) :
    ¬ r.masked.toList <:+: (String.join parts).toList := by
  induction parts with
  | nil => exact fun hoccurs => Text.toList_ne_nil hmask (List.infix_nil.mp hoccurs)
  | cons v rest ih =>
    obtain ⟨hv, hrest⟩ := List.forall_mem_cons.mp hparts
    obtain ⟨q, hq, rfl⟩ := List.mem_map.mp hv
    intro hoccurs
    rw [String.join_cons, String.toList_append] at hoccurs
    rcases Text.RunsInto.of_occurs hoccurs with hruns | hlater
    · exact h.mask_in_value r hr q hq hruns
    · exact ih hrest hlater

/-- In a text without masks, none is read from a character on that was there from the start. -/
theorem Apart.no_start (h : Apart rules) (hborders : Unbordered rules) (hr : r ∈ rules)
    (hrules : ∀ r, .mask r ∈ ps → r ∈ rules) (habsent : ¬ r.masked.toList <:+: meant ps)
    {before after : List Piece} {c : Char} (hps : ps = before ++ .plain c :: after) :
    ¬ r.masked.toList <+: c :: written after := by
  intro hread
  rw [hps, meant_append, meant_cons] at habsent
  cases hmask : r.masked.toList with
  | nil => exact habsent (hmask ▸ List.nil_infix)
  | cons d mask =>
    rw [hmask] at hread habsent
    obtain ⟨rfl, hrest⟩ := List.cons_prefix_cons.mp hread
    -- the rest of the mask is there as well, or it reaches into a mask
    rcases plain_or_runsInto_of_start hrest with ⟨more, rfl⟩ | ⟨q, hq, hruns⟩
    · rw [meant_append, meant_plain] at habsent
      exact habsent ⟨meant before, meant more, by simp [Piece.meant]⟩
    · have hq : q ∈ rules := by
        refine hrules q ?_
        rw [hps]
        exact List.mem_append_right _ (List.mem_cons_of_mem _ hq)
      by_cases hsame : r = q
      · have htail : r.masked.toList.tail = mask := congrArg List.tail hmask
        exact hborders r hr (htail ▸ hsame ▸ hruns)
      · refine h.mask_in_mask q hq r hr hsame (hruns.mono ?_)
        rw [hmask]
        exact List.suffix_cons d mask

/-- **Texts made of values are unambiguous** if the words are apart and no mask ends as it begins. -/
theorem Apart.unambiguous (h : Apart rules) (hborders : Unbordered rules)
    (hmasks : ∀ r ∈ rules, r.masked ≠ "") {parts : List String}
    (hparts : ∀ v ∈ parts, v ∈ rules.map Rule.unmasked) :
    Unambiguous rules (String.join parts).toList := by
  intro ps hform
  refine h.unmistakable hform.rule_mem fun before c after hps r hr => ?_
  refine h.no_start hborders hr hform.rule_mem ?_ hps
  rw [hform.meant_eq]
  exact h.not_occurs hr (hmasks r hr) hparts

/-! ## 2. Masks of a key -/

theorem rule_ne_empty {k : Key} {values : List String} (hvalues : ∀ v ∈ values, v ≠ "") :
    ∀ r ∈ values.map k.rule, r.unmasked ≠ "" ∧ r.masked ≠ "" := by
  intro r hr
  obtain ⟨v, hv, rfl⟩ := List.mem_map.mp hr
  exact ⟨hvalues v hv, k.mask_ne_empty (hvalues v hv)⟩

/-- Values that are written one after another come back if their masks look like nothing else. -/
theorem joined_values_come_back (k : Key) {values parts : List String} (hvalues : ∀ v ∈ values, v ≠ "")
    (h : Apart (values.map k.rule)) (hborders : Unbordered (values.map k.rule))
    (hparts : ∀ v ∈ parts, v ∈ values) :
    unmask (values.map k.rule) (mask (values.map k.rule) (String.join parts)) = String.join parts := by
  have hrules := rule_ne_empty (k := k) hvalues
  refine (h.unambiguous hborders (fun r hr => (hrules r hr).2) fun v hv => ?_).unmask_mask hrules
  exact List.mem_map.mpr ⟨k.rule v, List.mem_map_of_mem (hparts v hv), rfl⟩

/-- **Masks of a key come off** a text that is unambiguous under them, in whatever order, inside one
another and as often as the values are given. -/
theorem masks_of_a_key_come_off (k : Key) {values : List String} (hvalues : ∀ v ∈ values, v ≠ "")
    {text : String} (h : Unambiguous (values.map k.rule) text.toList) :
    unmask (values.map k.rule) (mask (values.map k.rule) text) = text :=
  h.unmask_mask (rule_ne_empty hvalues)

/-- Values inside one another, and one that is given twice. -/
theorem masks_of_nested_values_come_off :
    let values := ["shop", "shop-db", "db", "shop"]
    let rules := values.map Key.zero.rule
    let text := String.join ["shop-db", "db", "shop"]
    (∀ v ∈ values, v ≠ "") ∧ Unambiguous rules text.toList ∧ mask rules text = "3Pab-qYqY3Pab" ∧
      unmask rules (mask rules text) = text := by
  intro values rules text
  have hrules : rules =
      [⟨"shop", "3Pab"⟩, ⟨"shop-db", "hGh8tYJ"⟩, ⟨"db", "qY"⟩, ⟨"shop", "3Pab"⟩] := by
    decide +kernel
  have hvalues : ∀ v ∈ values, v ≠ "" := by decide
  have happart : Apart rules ∧ Unbordered rules := by
    rw [hrules]
    decide
  have hunambiguous : Unambiguous rules text.toList := by
    refine happart.1.unambiguous happart.2 ?_ (by decide)
    rw [hrules]
    decide
  refine ⟨hvalues, hunambiguous, ?_, masks_of_a_key_come_off Key.zero hvalues hunambiguous⟩
  rw [hrules]
  decide

/-- Two values of one character that have one mask: both come back as the second of them. -/
theorem masks_of_a_key_stay_ambiguous :
    ¬ ∀ (k : Key) (values parts : List String), (∀ v ∈ values, v ≠ "") → (∀ p ∈ parts, p ∈ values) →
      unmask (values.map k.rule) (mask (values.map k.rule) (String.join parts)) =
        String.join parts := by
  intro h
  have hrules : ["a", "e"].map Key.zero.rule = [⟨"a", "x"⟩, ⟨"e", "x"⟩] := by decide +kernel
  have hback := h Key.zero ["a", "e"] ["a", "e"] (by decide) (by decide)
  rw [hrules] at hback
  exact absurd hback (by decide)

/-! ## 3. Values alike -/

/-- Of two values with one mask, the first comes back as the second. -/
theorem unmask_mask_of_alike (k : Key) {a b : String} (ha : a ≠ "") (hb : b ≠ "")
    (halike : k.mask a = k.mask b) :
    unmask ([a, b].map k.rule) (mask ([a, b].map k.rule) a) = b := by
  have hlength : (k.mask a).toList.length = b.toList.length := by rw [halike, k.length_mask]
  have hmask : mask ([a, b].map k.rule) a = k.mask a := by
    show Text.replaceString b (k.mask b) (Text.replaceString a (k.mask a) a) = _
    rw [Text.replaceString_self ha]
    exact Text.replaceString_of_length_eq hlength (halike ▸ k.mask_ne_self hb)
  show Text.replaceString (k.mask a) a (Text.replaceString (k.mask b) b (mask _ a)) = b
  rw [hmask, ← halike, Text.replaceString_self (k.mask_ne_empty ha)]
  exact Text.replaceString_of_length_eq hlength.symm (halike ▸ (k.mask_ne_self hb).symm)

/-- **Every key takes a value for another one**, so that no choice of the key makes all masks come off. -/
theorem every_key_takes_a_value_for_another (k : Key) :
    ∃ a b : String, a ≠ "" ∧ b ≠ "" ∧ a ≠ b ∧
      unmask ([a, b].map k.rule) (mask ([a, b].map k.rule) a) = b := by
  obtain ⟨a, b, ha, hb, hne, halike⟩ := k.exists_alike
  exact ⟨a, b, ha, hb, hne, unmask_mask_of_alike k ha hb halike⟩

end Redaction
end ClusterTriage
