import ClusterTriage.Proofs.Text.Substitution
import ClusterTriage.Redaction.Basic

/-!
# Masked values are out of sight

Rules are applied one after another, and each is applied to what the ones before it have written. So a
value that is gone could come back: inside a mask, or where a mask meets the text around it.

> **It does not**, if masks are made of characters that no value has (`masked_text_shows_no_value`).

A value that stands in a masked text has no character of any mask, so it lies between the masks, where
the text is what it was (`occurs_of_occurs_mask`). The text itself is under no condition; it may well have
characters of masks.
-/

namespace ClusterTriage
namespace Redaction

/-- Every value has a mask, with no character of any value in it. A rule for the empty value never
applies, and may have whatever mask. -/
def Covering (rules : Rules) : Prop :=
  ∀ r ∈ rules, r.unmasked ≠ "" →
    r.masked ≠ "" ∧ ∀ r' ∈ rules, ∀ c ∈ r.masked.toList, c ∉ r'.unmasked.toList

instance (rules : Rules) : Decidable (Covering rules) :=
  -- character by character of the mask, and not of all there are
  haveI (r r' : Rule) : Decidable (∀ c ∈ r.masked.toList, c ∉ r'.unmasked.toList) :=
    List.decidableBAll _ _
  inferInstanceAs (Decidable (∀ r ∈ rules, r.unmasked ≠ "" →
    r.masked ≠ "" ∧ ∀ r' ∈ rules, ∀ c ∈ r.masked.toList, c ∉ r'.unmasked.toList))

variable {rules : Rules} {r : Rule} {text : String} {w : List Char}

theorem mask_append (before after : Rules) (text : String) :
    mask (before ++ after) text = mask after (mask before text) := List.foldl_append

theorem Rule.mask_of_empty (h : r.unmasked = "") (text : String) : r.mask text = text := by
  rw [Rule.mask, h, Text.replaceString]
  exact String.ofList_toList

theorem Rule.replaced (h : r.unmasked ≠ "") (text : String) :
    Text.Replaced r.unmasked.toList r.masked.toList text.toList (r.mask text).toList := by
  rw [Rule.mask, Text.toList_replaceString]
  exact Text.replaced_replaceAll (Text.toList_ne_nil h) text.toList

/-- A word without any character of a mask stands in a masked text only where it stood before. -/
theorem occurs_of_occurs_mask
    (h : ∀ r ∈ rules, r.unmasked ≠ "" → r.masked ≠ "" ∧ ∀ c ∈ r.masked.toList, c ∉ w)
    (hoccurs : w <:+: (mask rules text).toList) : w <:+: text.toList := by
  induction rules generalizing text with
  | nil => exact hoccurs
  | cons r rest ih =>
    obtain ⟨hr, hrest⟩ := List.forall_mem_cons.mp h
    have hafter : w <:+: (r.mask text).toList := ih hrest hoccurs
    by_cases hempty : r.unmasked = ""
    · rwa [Rule.mask_of_empty hempty] at hafter
    · obtain ⟨hmasked, hw⟩ := hr hempty
      exact (Rule.replaced hempty text).occurs_of_occurs (Text.toList_ne_nil hmasked) hw hafter

/-- **No value shows in a masked text**, whatever the text and in whatever order the rules come. -/
theorem masked_text_shows_no_value (h : Covering rules) (text : String) :
    ∀ r ∈ rules, r.unmasked ≠ "" → Text.containsString (mask rules text) r.unmasked = false := by
  intro r hr hvalue
  obtain ⟨hmasked, hcovers⟩ := h r hr hvalue
  obtain ⟨before, after, rfl⟩ := List.append_of_mem hr
  -- its own rule takes it out of the text, and the rules after that one do not bring it back
  have hgone : ¬ r.unmasked.toList <:+: (r.mask (mask before text)).toList :=
    (Rule.replaced hvalue _).not_occurs (Text.toList_ne_nil hvalue) (Text.toList_ne_nil hmasked) (hcovers r hr)
  have hlater : ∀ q ∈ after, q.unmasked ≠ "" →
      q.masked ≠ "" ∧ ∀ c ∈ q.masked.toList, c ∉ r.unmasked.toList := by
    intro q hq hne
    obtain ⟨hq', hcovers'⟩ := h q (List.mem_append_right _ (List.mem_cons_of_mem r hq)) hne
    exact ⟨hq', hcovers' r hr⟩
  rw [mask_append, Text.containsString, Bool.eq_false_iff]
  intro hoccurs
  exact hgone (occurs_of_occurs_mask hlater (Text.occursIn_iff.mp hoccurs))

/-- Values inside one another, in either order, a value that begins where another ends, and a text with
masks in it from the start. -/
theorem masked_text_shows_no_nested_value :
    let rules : Rules :=
      [⟨"web", "§"⟩, ⟨"web-1", "#~"⟩, ⟨"", "web"⟩, ⟨"shop/db", "~"⟩, ⟨"db-1", "§§"⟩, ⟨"db", "#"⟩]
    let text := "web-1§ wewebb #~shop/db-1 db-db"
    Covering rules ∧ mask rules text = "§-1§ we§b #~~-1 #-#" ∧
      ∀ r ∈ rules, r.unmasked ≠ "" → Text.containsString (mask rules text) r.unmasked = false := by
  intro rules text
  have hcovering : Covering rules := by decide
  exact ⟨hcovering, by decide, masked_text_shows_no_value hcovering text⟩

end Redaction
end ClusterTriage
