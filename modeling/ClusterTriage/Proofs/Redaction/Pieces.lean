import ClusterTriage.Proofs.Text.Substitution
import ClusterTriage.Redaction.Basic

/-!
# Texts that remember

A masked text does not say where its masks are, and rules work on nothing but the text. So a proof about
masking and unmasking is about texts that remember how they came about: a `Piece` is a character that was
there from the start or a mask that some rule has put in.

> **A rule only trades pieces** as long as no piece is mistaken for anything else: masking turns runs of
> characters into masks, unmasking turns the masks of a rule back into characters, and what the pieces
> stand for stays the same (`Unmistakable.mask_written`, `Unmistakable.unmask_written`).

Pieces are not mistaken if the words of the rules do not run into one another (`Apart.unmistakable`).

A text that is masked here and there is a *form* of the text it stands for. Where no form of a text can be
mistaken, rules in any order, repeated or inside one another, come off as they were put on
(`Unambiguous.unmask_mask`).
-/

namespace ClusterTriage
namespace Redaction

/-! ## 1. Pieces -/

/-- A part of a text that is masked here and there. -/
inductive Piece where
  /-- A character that was there from the start. -/
  | plain (c : Char)
  /-- A mask that a rule has put in. -/
  | mask (r : Rule)

/-- How a piece shows in the text. -/
def Piece.written : Piece → List Char
  | .plain c => [c]
  | .mask r => r.masked.toList

/-- What a piece stands for. -/
def Piece.meant : Piece → List Char
  | .plain c => [c]
  | .mask r => r.unmasked.toList

/-- The text that is made of some pieces. -/
def written (ps : List Piece) : List Char := ps.flatMap Piece.written

/-- The text that some pieces stand for. -/
def meant (ps : List Piece) : List Char := ps.flatMap Piece.meant

variable {rules : Rules} {r : Rule} {ps qs : List Piece} {t : List Char}

theorem written_cons (p : Piece) : written (p :: ps) = p.written ++ written ps := List.flatMap_cons

theorem meant_cons (p : Piece) : meant (p :: ps) = p.meant ++ meant ps := List.flatMap_cons

theorem written_append (ps qs : List Piece) : written (ps ++ qs) = written ps ++ written qs :=
  List.flatMap_append

theorem meant_append (ps qs : List Piece) : meant (ps ++ qs) = meant ps ++ meant qs :=
  List.flatMap_append

theorem written_plain (s : List Char) : written (s.map .plain) = s := by
  induction s with
  | nil => rfl
  | cons c cs ih => exact congrArg (c :: ·) ih

theorem meant_plain (s : List Char) : meant (s.map .plain) = s := by
  induction s with
  | nil => rfl
  | cons c cs ih => exact congrArg (c :: ·) ih

/-- A text in which no mask is left is the text that was meant. -/
theorem written_eq_meant (h : ∀ r, .mask r ∉ ps) : written ps = meant ps := by
  induction ps with
  | nil => rfl
  | cons p rest ih =>
    have hrest := ih fun r hr => h r (List.mem_cons_of_mem p hr)
    cases p with
    | plain c => exact congrArg (c :: ·) hrest
    | mask r => exact absurd List.mem_cons_self (h r)

/-- Masks of one kind turned back into characters. -/
def Piece.reveal (masked : String) : Piece → List Piece
  | .plain c => [.plain c]
  | .mask r => if r.masked = masked then r.unmasked.toList.map .plain else [.mask r]

theorem meant_reveal (masked : String) (ps : List Piece) :
    meant (ps.flatMap (Piece.reveal masked)) = meant ps := by
  induction ps with
  | nil => rfl
  | cons p rest ih =>
    rw [List.flatMap_cons, meant_append, meant_cons, ih]
    cases p with
    | plain c => rfl
    | mask r =>
      rw [Piece.reveal]
      split
      · rw [meant_plain, Piece.meant]
      · exact congrArg (· ++ meant rest) (List.append_nil _)

theorem mem_reveal {masked : String} (hmem : .mask r ∈ ps.flatMap (Piece.reveal masked)) :
    .mask r ∈ ps ∧ r.masked ≠ masked := by
  obtain ⟨p, hp, hr⟩ := List.mem_flatMap.mp hmem
  cases p with
  | plain c => exact absurd (List.mem_singleton.mp hr) (by simp)
  | mask r' =>
    rw [Piece.reveal] at hr
    split at hr
    · exact absurd hr (by simp)
    · rename_i hother
      obtain ⟨⟩ := List.mem_singleton.mp hr
      exact ⟨hp, hother⟩

/-! ## 2. One rule -/

/-- Pieces that are read as what they are: wherever one begins to read, also inside a mask, a value is
read in characters only that were there from the start, and the mask of a rule only in a mask that the
rule has put in. -/
def Unmistakable (rules : Rules) (ps : List Piece) : Prop :=
  ∀ before p after, ps = before ++ p :: after → ∀ u, u ≠ [] → u <:+ p.written → ∀ r ∈ rules,
    (r.unmasked.toList <+: u ++ written after →
      ∃ more, p :: after = r.unmasked.toList.map .plain ++ more) ∧
    (r.masked.toList <+: u ++ written after → p = .mask r)

namespace Unmistakable

theorem tail (qs : List Piece) (h : Unmistakable rules (qs ++ ps)) : Unmistakable rules ps := by
  rintro before p after rfl
  exact h (qs ++ before) p after (List.append_assoc _ _ _).symm

/-- **Masking trades pieces**: runs of characters for masks that mean the same. The induction is on
the number of pieces, since a mask takes the place of as many of them as its value has characters. -/
theorem mask_written (h : Unmistakable rules ps) (hr : r ∈ rules) (hvalue : r.unmasked ≠ "") :
    ∃ ps', (∀ p ∈ ps', p ∈ ps ∨ p = .mask r) ∧ meant ps' = meant ps ∧
      Text.replaceAll r.unmasked.toList r.masked.toList (written ps) = written ps' := by
  have hne := Text.toList_ne_nil hvalue
  induction hn : ps.length using Nat.strong_induction_on generalizing ps with
  | _ n ih =>
    subst hn
    cases ps with
    | nil => exact ⟨[], fun _ hp => .inl hp, rfl, Text.replaceAll_nil⟩
    | cons p rest =>
      have htail : Unmistakable rules rest := Unmistakable.tail [p] h
      obtain ⟨rest', hmem, hmeant, hwritten⟩ := ih rest.length (Nat.lt_succ_self _) htail rfl
      have hpieces : ∀ q ∈ p :: rest', q ∈ p :: rest ∨ q = .mask r := by
        intro q hq
        rcases List.mem_cons.mp hq with rfl | hq
        · exact .inl List.mem_cons_self
        · exact (hmem q hq).imp_left (List.mem_cons_of_mem p)
      by_cases hstart : ∃ more, p :: rest = r.unmasked.toList.map .plain ++ more
      · obtain ⟨more, hmore⟩ := hstart
        have hfewer : more.length < (p :: rest).length := by
          have hpos := List.length_pos_iff.mpr hne
          rw [hmore, List.length_append, List.length_map]
          omega
        rw [hmore] at h ⊢
        obtain ⟨more', hmem', hmeant', hwritten'⟩ := ih more.length hfewer (h.tail _) rfl
        refine ⟨.mask r :: more', ?_, ?_, ?_⟩
        · intro q hq
          rcases List.mem_cons.mp hq with rfl | hq
          · exact .inr rfl
          · exact (hmem' q hq).imp_left (List.mem_append_right _)
        · rw [meant_cons, hmeant', meant_append, meant_plain, Piece.meant]
        · rw [written_append, written_plain, written_cons, Piece.written,
            Text.replaceAll_append_of_occurrence hne, hwritten']
      · refine ⟨p :: rest', hpieces, congrArg (p.meant ++ ·) hmeant, ?_⟩
        rw [written_cons, written_cons, ← hwritten]
        exact Text.replaceAll_append_of_no_start fun u hu hsuffix hread =>
          hstart ((h [] p rest rfl u hu hsuffix r hr).1 hread)

/-- **Unmasking trades pieces**: exactly the masks of the rule for what they mean. -/
theorem unmask_written (h : Unmistakable rules ps) (hr : r ∈ rules) (hmask : r.masked ≠ "") :
    Text.replaceAll r.masked.toList r.unmasked.toList (written ps) =
      written (ps.flatMap (Piece.reveal r.masked)) := by
  have hne := Text.toList_ne_nil hmask
  induction ps with
  | nil => exact Text.replaceAll_nil
  | cons p rest ih =>
    have hhere := h [] p rest rfl
    have htail : Unmistakable rules rest := Unmistakable.tail [p] h
    rw [List.flatMap_cons, written_append, written_cons, ← ih htail]
    cases p with
    | plain c =>
      refine Text.replaceAll_append_of_no_start fun u hu hsuffix hread => ?_
      cases (hhere u hu hsuffix r hr).2 hread
    | mask r' =>
      by_cases hsame : r'.masked = r.masked
      · -- a mask that shows as the rule's is the rule's
        have hrule : Piece.mask r' = .mask r := by
          refine (hhere r'.masked.toList (hsame ▸ hne) List.suffix_rfl r hr).2 ?_
          rw [hsame]
          exact List.prefix_append _ _
        obtain rfl := Piece.mask.inj hrule
        rw [Piece.reveal, if_pos rfl, Piece.written, written_plain]
        exact Text.replaceAll_append_of_occurrence hne
      · have halone : written [.mask r'] = r'.masked.toList := List.append_nil _
        rw [Piece.reveal, if_neg hsame, halone]
        refine Text.replaceAll_append_of_no_start fun u hu hsuffix hread => hsame ?_
        cases (hhere u hu hsuffix r hr).2 hread
        rfl

end Unmistakable

/-! ## 3. Words that are apart -/

/-- Rules whose words can be told from one another wherever they are written side by side: no value could
be read from within a mask on, and no mask from within a value or another mask. -/
structure Apart (rules : Rules) : Prop where
  value_in_mask : ∀ r ∈ rules, ∀ q ∈ rules, ¬ Text.RunsInto q.masked.toList r.unmasked.toList
  mask_in_value : ∀ r ∈ rules, ∀ q ∈ rules, ¬ Text.RunsInto q.unmasked.toList r.masked.toList
  mask_in_mask : ∀ r ∈ rules, ∀ q ∈ rules, q ≠ r →
    ¬ Text.RunsInto q.masked.toList r.masked.toList

theorem apart_iff : Apart rules ↔ ∀ r ∈ rules, ∀ q ∈ rules,
    ¬ Text.RunsInto q.masked.toList r.unmasked.toList ∧
    ¬ Text.RunsInto q.unmasked.toList r.masked.toList ∧
    (q ≠ r → ¬ Text.RunsInto q.masked.toList r.masked.toList) := by
  constructor
  · intro h r hr q hq
    exact ⟨h.value_in_mask r hr q hq, h.mask_in_value r hr q hq, h.mask_in_mask r hr q hq⟩
  · intro h
    exact
      { value_in_mask := fun r hr q hq => (h r hr q hq).1
        mask_in_value := fun r hr q hq => (h r hr q hq).2.1
        mask_in_mask := fun r hr q hq => (h r hr q hq).2.2 }

instance (rules : Rules) : Decidable (Apart rules) := decidable_of_iff _ apart_iff.symm

/-- Where a text begins with a word, its pieces are the characters of the word, or the word reaches a
mask. -/
theorem plain_or_runsInto_of_start {w : List Char} (hstart : w <+: written ps) :
    (∃ more, ps = w.map .plain ++ more) ∨ ∃ q, .mask q ∈ ps ∧ Text.RunsInto w q.masked.toList := by
  induction w generalizing ps with
  | nil => exact .inl ⟨ps, rfl⟩
  | cons c w ih =>
    cases ps with
    | nil => exact absurd (List.prefix_nil.mp hstart) (List.cons_ne_nil c w)
    | cons p rest =>
      cases p with
      | plain d =>
        obtain ⟨rfl, hrest⟩ := List.cons_prefix_cons.mp hstart
        rcases ih hrest with ⟨more, rfl⟩ | ⟨q, hq, hruns⟩
        · exact .inl ⟨more, rfl⟩
        · exact .inr ⟨q, List.mem_cons_of_mem _ hq, hruns.mono (List.suffix_cons c w)⟩
      | mask q =>
        have hmask : q.masked.toList <+: written (.mask q :: rest) := List.prefix_append _ _
        exact .inr ⟨q, List.mem_cons_self, c :: w, List.cons_ne_nil c w, List.suffix_rfl,
          List.prefix_or_prefix_of_prefix hstart hmask⟩

/-- **Apart words are not mistaken**, as long as none of the characters that were there begins a mask. -/
theorem Apart.unmistakable (h : Apart rules) (hrules : ∀ r, .mask r ∈ ps → r ∈ rules)
    (hplain : ∀ before c after, ps = before ++ .plain c :: after →
      ∀ r ∈ rules, ¬ r.masked.toList <+: c :: written after) : Unmistakable rules ps := by
  rintro before p after rfl u hu hsuffix r hr
  -- what is read begins with a character that was there or within a mask
  cases p with
  | plain c =>
    obtain rfl : u = [c] := hsuffix.eq_of_length_le (List.length_pos_iff.mpr hu)
    refine ⟨fun hread => ?_, fun hread => absurd hread (hplain before c after rfl r hr)⟩
    have hvalue : r.unmasked.toList <+: written (.plain c :: after) := hread
    rcases plain_or_runsInto_of_start hvalue with hplainly | ⟨q, hq, hruns⟩
    · exact hplainly
    · exact absurd hruns (h.mask_in_value q (hrules q (List.mem_append_right _ hq)) r hr)
  | mask q =>
    have hq : q ∈ rules := hrules q (List.mem_append_right _ List.mem_cons_self)
    refine ⟨fun hread => ?_, fun hread => ?_⟩
    · exact absurd (Text.RunsInto.of_start hu hsuffix hread) (h.value_in_mask r hr q hq)
    · have hruns : Text.RunsInto q.masked.toList r.masked.toList := .of_start hu hsuffix hread
      by_contra hother
      exact h.mask_in_mask r hr q hq (fun hsame => hother (hsame ▸ rfl)) hruns

/-! ## 4. All rules -/

/-- Pieces that stand for a text, with masks of some rules. -/
structure FormOf (rules : Rules) (t : List Char) (ps : List Piece) : Prop where
  meant_eq : meant ps = t
  rule_mem : ∀ r, .mask r ∈ ps → r ∈ rules

theorem FormOf.plain (rules : Rules) (t : List Char) : FormOf rules t (t.map .plain) where
  meant_eq := meant_plain t
  rule_mem r hr := absurd hr (by simp)

/-- A text of which no form is mistaken for anything else: whatever parts of it are masked, values are
read only in the parts that are not, and masks only where they were put. -/
def Unambiguous (rules : Rules) (t : List Char) : Prop :=
  ∀ ps, FormOf rules t ps → Unmistakable rules ps

namespace Unambiguous

variable {text : String}

/-- Masking leads from form to form. -/
theorem mask_form (h : Unambiguous rules t) {own : Rules} (hown : ∀ r ∈ own, r ∈ rules)
    (hvalues : ∀ r ∈ own, r.unmasked ≠ "") (hps : FormOf rules t ps)
    (htext : text.toList = written ps) :
    ∃ ps', FormOf rules t ps' ∧ (mask own text).toList = written ps' := by
  induction own generalizing text ps with
  | nil => exact ⟨ps, hps, htext⟩
  | cons r rest ih =>
    obtain ⟨hr, hrest⟩ := List.forall_mem_cons.mp hown
    obtain ⟨hvalue, hvalues⟩ := List.forall_mem_cons.mp hvalues
    obtain ⟨ps₁, hmem, hmeant, hwritten⟩ := (h ps hps).mask_written hr hvalue
    have hform : FormOf rules t ps₁ := by
      refine ⟨hmeant.trans hps.meant_eq, fun q hq => ?_⟩
      rcases hmem _ hq with hold | hnew
      · exact hps.rule_mem q hold
      · exact Piece.mask.inj hnew ▸ hr
    have hmasked : (r.mask text).toList = written ps₁ := by
      rw [Rule.mask, Text.toList_replaceString, htext, hwritten]
    exact ih hrest hvalues hform hmasked

/-- Unmasking leads from form to form, and none of the masks is left. -/
theorem unmask_form (h : Unambiguous rules t) {some : Rules} (hsome : ∀ r ∈ some, r ∈ rules)
    (hmasks : ∀ r ∈ some, r.masked ≠ "") (hps : FormOf rules t ps)
    (htext : text.toList = written ps) :
    ∃ ps', FormOf rules t ps' ∧ (unmask some text).toList = written ps' ∧
      ∀ r, .mask r ∈ ps' → ∀ r' ∈ some, r.masked ≠ r'.masked := by
  induction some with
  | nil => exact ⟨ps, hps, htext, fun _ _ _ hr' => absurd hr' List.not_mem_nil⟩
  | cons r rest ih =>
    -- the first rule comes last
    obtain ⟨hr, hrest⟩ := List.forall_mem_cons.mp hsome
    obtain ⟨hmask, hmasks⟩ := List.forall_mem_cons.mp hmasks
    obtain ⟨ps₁, hps₁, hwritten, hgone⟩ := ih hrest hmasks
    refine ⟨ps₁.flatMap (Piece.reveal r.masked), ⟨?_, fun q hq => ?_⟩, ?_, fun q hq => ?_⟩
    · rw [meant_reveal, hps₁.meant_eq]
    · exact hps₁.rule_mem q (mem_reveal hq).1
    · show (r.unmask (unmask rest text)).toList = _
      rw [Rule.unmask, Text.toList_replaceString, hwritten, (h ps₁ hps₁).unmask_written hr hmask]
    · exact List.forall_mem_cons.mpr ⟨(mem_reveal hq).2, hgone q (mem_reveal hq).1⟩

/-- **All rules together take off every mask**, in whatever order and by whichever of them the masks
were put on. -/
theorem toList_unmask (h : Unambiguous rules t) (hmasks : ∀ r ∈ rules, r.masked ≠ "")
    (hps : FormOf rules t ps) (htext : text.toList = written ps) :
    (unmask rules text).toList = t := by
  obtain ⟨ps', hps', hwritten, hgone⟩ := h.unmask_form (fun _ hr => hr) hmasks hps htext
  rw [hwritten, ← hps'.meant_eq]
  exact written_eq_meant fun r hmem => hgone r hmem r (hps'.rule_mem r hmem) rfl

/-- **An unambiguous text comes back.** -/
theorem unmask_mask (h : Unambiguous rules text.toList)
    (hrules : ∀ r ∈ rules, r.unmasked ≠ "" ∧ r.masked ≠ "") :
    unmask rules (mask rules text) = text := by
  obtain ⟨ps, hps, hwritten⟩ := h.mask_form (fun _ hr => hr) (fun r hr => (hrules r hr).1)
    (FormOf.plain rules text.toList) (written_plain text.toList).symm
  rw [← String.toList_inj]
  exact h.toList_unmask (fun r hr => (hrules r hr).2) hps hwritten

end Unambiguous

end Redaction
end ClusterTriage
