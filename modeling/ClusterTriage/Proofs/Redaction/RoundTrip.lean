import ClusterTriage.Finding.Basic
import ClusterTriage.Proofs.Redaction.Pieces

/-!
# Redaction can be undone

Each failure is masked with its own rules, and what comes back is unmasked with the rules of all of
them. The two sides do not mirror each other: a value may stand where nobody registered it, may lie
inside another one, and may have more than one mask.

> **Masks that look like nothing else come off** (`unmask_joined_masked`).

The conditions on the rules (`Reversible`) are what it takes for a substitution not to see anything
but pieces (`Reversible.unmistakable`). A mask may overlap itself: from the left, masks of one kind are
read as they were put.
-/

namespace ClusterTriage
namespace Redaction

/-! ## 1. Conditions -/

/-- No mask of the rules has a character in common with a text. -/
def Foreign (rules : Rules) (text : String) : Prop :=
  ∀ r ∈ rules, ∀ c ∈ r.masked.toList, c ∉ text.toList

/-- Rules whose masks can be told from values and from each other. -/
structure Reversible (rules : Rules) : Prop where
  unmasked_ne : ∀ r ∈ rules, r.unmasked ≠ ""
  masked_ne : ∀ r ∈ rules, r.masked ≠ ""
  /-- No mask has a character in common with a value. -/
  foreign : ∀ r ∈ rules, Foreign rules r.unmasked
  /-- A mask stands for one value. -/
  consistent : ∀ r ∈ rules, ∀ r' ∈ rules, r.masked = r'.masked → r.unmasked = r'.unmasked
  /-- No mask contains a different one. -/
  separate : ∀ r ∈ rules, ∀ r' ∈ rules, r.masked ≠ r'.masked →
    ¬ r.masked.toList <:+: r'.masked.toList
  /-- No mask ends with the beginning of a different one. -/
  unlinked : ∀ r ∈ rules, ∀ r' ∈ rules, r.masked ≠ r'.masked →
    ∀ s, s ≠ [] → s <:+ r.masked.toList → ¬ s <+: r'.masked.toList

instance (rules : Rules) (text : String) : Decidable (Foreign rules text) :=
  inferInstanceAs (Decidable (∀ r ∈ rules, ∀ c ∈ r.masked.toList, c ∉ text.toList))

/-- The conditions as something to check: a mask has no more ends than it has characters. -/
theorem reversible_iff {rules : Rules} : Reversible rules ↔
    (∀ r ∈ rules, r.unmasked ≠ "" ∧ r.masked ≠ "" ∧ Foreign rules r.unmasked) ∧
      ∀ r ∈ rules, ∀ r' ∈ rules,
        (r.masked = r'.masked → r.unmasked = r'.unmasked) ∧
        (r.masked ≠ r'.masked → ¬ r.masked.toList <:+: r'.masked.toList ∧
          ∀ s ∈ r.masked.toList.tails, s ≠ [] → ¬ s <+: r'.masked.toList) := by
  constructor
  · intro h
    refine ⟨fun r hr => ⟨h.unmasked_ne r hr, h.masked_ne r hr, h.foreign r hr⟩,
      fun r hr r' hr' => ⟨h.consistent r hr r' hr', fun hne => ⟨h.separate r hr r' hr' hne, ?_⟩⟩⟩
    intro s hs hne'
    exact h.unlinked r hr r' hr' hne s hne' ((List.mem_tails s _).mp hs)
  · rintro ⟨each, both⟩
    exact
      { unmasked_ne := fun r hr => (each r hr).1
        masked_ne := fun r hr => (each r hr).2.1
        foreign := fun r hr => (each r hr).2.2
        consistent := fun r hr r' hr' => (both r hr r' hr').1
        separate := fun r hr r' hr' hne => ((both r hr r' hr').2 hne).1
        unlinked := fun r hr r' hr' hne s hs hsuffix =>
          ((both r hr r' hr').2 hne).2 s ((List.mem_tails s _).mpr hsuffix) hs }

instance (rules : Rules) : Decidable (Reversible rules) := decidable_of_iff _ reversible_iff.symm

/-! ## 2. Legible pieces -/

/-- A piece that rules can have led to: a mask of theirs, or a character that is in none of them. -/
def Piece.Legible (rules : Rules) : Piece → Prop
  | .plain c => ∀ r ∈ rules, c ∉ r.masked.toList
  | .mask r => r ∈ rules

variable {rules : Rules} {r : Rule} {ps : List Piece} {t : List Char}

theorem Reversible.masked_toList_ne (h : Reversible rules) (hr : r ∈ rules) :
    r.masked.toList ≠ [] := Text.toList_ne_nil (h.masked_ne r hr)

theorem Reversible.unmasked_toList_ne (h : Reversible rules) (hr : r ∈ rules) :
    r.unmasked.toList ≠ [] := Text.toList_ne_nil (h.unmasked_ne r hr)

theorem legible_plain {s : List Char} (h : ∀ c ∈ s, ∀ r ∈ rules, c ∉ r.masked.toList) :
    ∀ p ∈ s.map .plain, Piece.Legible rules p := by
  intro p hp
  obtain ⟨c, hc, rfl⟩ := List.mem_map.mp hp
  exact h c hc

theorem Foreign.legible {text : String} (h : Foreign rules text) :
    ∀ p ∈ text.toList.map .plain, Piece.Legible rules p :=
  legible_plain fun c hc r hr hmem => h r hr c hmem hc

theorem FormOf.legible (hform : FormOf rules t ps) (ht : ∀ c ∈ t, ∀ r ∈ rules, c ∉ r.masked.toList) :
    ∀ p ∈ ps, p.Legible rules := by
  intro p hp
  cases p with
  | plain c =>
    have hc : c ∈ meant ps := List.mem_flatMap.mpr ⟨.plain c, hp, List.mem_singleton_self c⟩
    exact ht c (hform.meant_eq ▸ hc)
  | mask r => exact hform.rule_mem r hp

theorem Reversible.foreign_meant (h : Reversible rules) (hps : ∀ p ∈ ps, p.Legible rules) :
    ∀ c ∈ meant ps, ∀ r ∈ rules, c ∉ r.masked.toList := by
  intro c hc r hr hmem
  obtain ⟨p, hp, hc⟩ := List.mem_flatMap.mp hc
  cases p with
  | plain d =>
    obtain rfl := List.mem_singleton.mp hc
    exact hps _ hp r hr hmem
  | mask q => exact h.foreign q (hps _ hp) r hr c hmem hc

/-- **Reversible rules are apart.** -/
theorem Reversible.apart (h : Reversible rules) : Apart rules where
  value_in_mask r hr q hq hruns := by
    obtain ⟨c, hmask, hvalue⟩ := hruns.exists_mem (h.unmasked_toList_ne hr)
    exact h.foreign r hr q hq c hmask hvalue
  mask_in_value r hr q hq hruns := by
    obtain ⟨c, hvalue, hmask⟩ := hruns.exists_mem (h.masked_toList_ne hr)
    exact h.foreign q hq r hr c hmask hvalue
  mask_in_mask r hr q hq hother := by
    have hne : q.masked ≠ r.masked := by
      intro hsame
      exact hother (congrArg₂ Rule.mk (h.consistent q hq r hr hsame) hsame)
    rintro ⟨u, hu, hsuffix, hover | hinside⟩
    · exact h.unlinked q hq r hr hne u hu hsuffix hover
    · exact h.separate r hr q hq hne.symm (hinside.isInfix.trans hsuffix.isInfix)

/-- **Legible pieces are mistaken for nothing else.** -/
theorem Reversible.unmistakable (h : Reversible rules) (hps : ∀ p ∈ ps, p.Legible rules) :
    Unmistakable rules ps := by
  refine h.apart.unmistakable (fun r hr => hps _ hr) ?_
  rintro before c after rfl r hr hread
  -- the mask would begin with a character that is in none of them
  obtain ⟨m, ms, hmask⟩ := List.exists_cons_of_ne_nil (h.masked_toList_ne hr)
  rw [hmask] at hread
  obtain ⟨rfl, -⟩ := List.cons_prefix_cons.mp hread
  refine hps (.plain m) (List.mem_append_right _ List.mem_cons_self) r hr ?_
  rw [hmask]
  exact List.mem_cons_self

theorem Reversible.unambiguous (h : Reversible rules)
    (ht : ∀ c ∈ t, ∀ r ∈ rules, c ∉ r.masked.toList) : Unambiguous rules t :=
  fun _ hform => h.unmistakable (hform.legible ht)

/-- **All rules together take off every mask**, in whatever order and by whichever of them the masks
were put on. -/
theorem toList_unmask (h : Reversible rules) (hps : ∀ p ∈ ps, p.Legible rules) {text : String}
    (htext : text.toList = written ps) : (unmask rules text).toList = meant ps :=
  (h.unambiguous (h.foreign_meant hps)).toList_unmask h.masked_ne ⟨rfl, fun _ hr => hps _ hr⟩ htext

/-! ## 3. The failures of a finding -/

/-- A joined text, each part masked with rules of its own, is made of pieces that stand for the parts
as they were. -/
theorem exists_pieces_of_join (h : Reversible rules) {separator : String}
    (hseparator : Foreign rules separator) {failures : List Failure}
    (hown : ∀ f ∈ failures, ∀ r ∈ f.sensitive, r ∈ rules)
    (htexts : ∀ f ∈ failures, Foreign rules f.text) :
    ∃ ps, (∀ p ∈ ps, p.Legible rules) ∧
      (separator.intercalate (failures.map Failure.masked)).toList = written ps ∧
      (separator.intercalate (failures.map Failure.text)).toList = meant ps := by
  induction failures with
  | nil => exact ⟨[], fun _ hp => absurd hp List.not_mem_nil, rfl, rfl⟩
  | cons f rest ih =>
    obtain ⟨hrules, hown⟩ := List.forall_mem_cons.mp hown
    obtain ⟨htext, htexts⟩ := List.forall_mem_cons.mp htexts
    have hplain : ∀ c ∈ f.text.toList, ∀ r ∈ rules, c ∉ r.masked.toList :=
      fun c hc r hr hmem => htext r hr c hmem hc
    obtain ⟨ps, hform, hwritten⟩ := (h.unambiguous hplain).mask_form hrules
      (fun r hr => h.unmasked_ne r (hrules r hr)) (FormOf.plain rules f.text.toList)
      (written_plain f.text.toList).symm
    have hps := hform.legible hplain
    have hmeant := hform.meant_eq
    cases rest with
    | nil =>
      refine ⟨ps, hps, ?_, ?_⟩
      · rw [List.map_singleton, String.intercalate_singleton, Failure.masked, hwritten]
      · rw [List.map_singleton, String.intercalate_singleton, hmeant]
    | cons g rest =>
      obtain ⟨more, hmore, hwritten', hmeant'⟩ := ih hown htexts
      refine ⟨ps ++ separator.toList.map .plain ++ more, ?_, ?_, ?_⟩
      · exact List.forall_mem_append.mpr
          ⟨List.forall_mem_append.mpr ⟨hps, hseparator.legible⟩, hmore⟩
      · rw [List.map_cons, List.map_cons, String.intercalate_cons_cons, ← List.map_cons,
          String.toList_append, String.toList_append, hwritten', Failure.masked, hwritten,
          written_append, written_append, written_plain]
      · rw [List.map_cons, List.map_cons, String.intercalate_cons_cons, ← List.map_cons,
          String.toList_append, String.toList_append, hmeant', ← hmeant, meant_append,
          meant_append, meant_plain]

/-- **What was masked failure by failure is unmasked as a whole.** -/
theorem unmask_joined_masked {failures : List Failure}
    (h : Reversible (Failure.rules failures)) (hspace : Foreign (Failure.rules failures) " ")
    (htexts : ∀ f ∈ failures, Foreign (Failure.rules failures) f.text) :
    unmask (Failure.rules failures) (" ".intercalate (failures.map Failure.masked)) =
      " ".intercalate (failures.map Failure.text) := by
  have hown : ∀ f ∈ failures, ∀ r ∈ f.sensitive, r ∈ Failure.rules failures :=
    fun f hf r hr => List.mem_flatMap.mpr ⟨f, hf, hr⟩
  obtain ⟨ps, hps, hwritten, hmeant⟩ := exists_pieces_of_join h hspace hown htexts
  rw [← String.toList_inj, toList_unmask h hps hwritten, hmeant]

/-- A mask that overlaps itself, a value inside another one, and a value where nobody registered
it. -/
theorem unmask_joined_masked_of_nested :
    let failures : List Failure :=
      [⟨"web-1web-1 waits for web", [⟨"web-1", "§§§"⟩, ⟨"web", "#~"⟩], none⟩,
        ⟨"web-1 is gone", [⟨"web", "#~"⟩], none⟩]
    let rules := Failure.rules failures
    failures.map Failure.masked = ["§§§§§§ waits for #~", "#~-1 is gone"] ∧
      Reversible rules ∧ Foreign rules " " ∧ (∀ f ∈ failures, Foreign rules f.text) ∧
      unmask rules (" ".intercalate (failures.map Failure.masked)) =
        " ".intercalate (failures.map Failure.text) := by
  intro failures rules
  have hlist : rules = [⟨"web-1", "§§§"⟩, ⟨"web", "#~"⟩, ⟨"web", "#~"⟩] := rfl
  have hrules : Reversible rules := by
    rw [hlist, reversible_iff]
    simp [Foreign, -List.mem_tails]
    decide
  have hspace : Foreign rules " " := by
    rw [hlist]
    simp [Foreign]
  have htexts : ∀ f ∈ failures, Foreign rules f.text := by
    rw [hlist]
    simp [Foreign, failures]
  refine ⟨?_, hrules, hspace, htexts, unmask_joined_masked hrules hspace htexts⟩
  cbv

end Redaction
end ClusterTriage
