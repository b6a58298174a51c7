import ClusterTriage.Text.Substitution
import Mathlib.Data.List.Infix

/-!
# How a substitution reads a text

`replaceFrom` carries a number of characters to skip, which is how it gets by with recursion on the
text. Nobody who reasons about a substitution wants to see that number, so it goes first
(`replaceFrom_eq_drop`), and what is left are two equations: at an occurrence, and anywhere else.

> **A part of a text is copied** if no occurrence starts in it (`replaceAll_append_of_no_start`) —
> not even one that would run over its end.

What a substitution leaves behind is a question about every place of the text at once. `Replaced` keeps
the two equations as the two ways to go on reading, and such questions become inductions over it.

> **No word is made by inserting characters that it does not have** (`Replaced.occurs_of_occurs`), and if
> the pattern has none of them, it is gone (`Replaced.not_occurs`).
-/

namespace ClusterTriage
namespace Text

variable {pat new s t w : List Char} {c : Char}

/-! ## 1. Equations -/

/-- Skipping is starting later. -/
theorem replaceFrom_eq_drop (pat new : List Char) (skip : Nat) (s : List Char) :
    replaceFrom pat new skip s = replaceFrom pat new 0 (s.drop skip) := by
  induction s generalizing skip with
  | nil => rw [List.drop_nil]; rfl
  | cons c cs ih =>
    cases skip with
    | zero => rfl
    | succ skip =>
      rw [List.drop_succ_cons, ← ih skip]
      rfl

theorem replaceAll_eq (h : pat ≠ []) : replaceAll pat new s = replaceFrom pat new 0 s := by
  rw [replaceAll, if_neg (by simpa using h)]

theorem replaceAll_nil : replaceAll pat new [] = [] := by
  unfold replaceAll
  split <;> rfl

/-- An occurrence is replaced, and the rest is read on its own. -/
theorem replaceAll_append_of_occurrence (h : pat ≠ []) :
    replaceAll pat new (pat ++ s) = new ++ replaceAll pat new s := by
  cases hpat : pat with
  | nil => exact absurd hpat h
  | cons c cs =>
    have hstart : (c :: cs).isPrefixOf (c :: (cs ++ s)) = true :=
      List.isPrefixOf_iff_prefix.mpr (List.prefix_append (c :: cs) s)
    rw [replaceAll_eq (by simp), replaceAll_eq (by simp), List.cons_append, replaceFrom,
      if_pos hstart, replaceFrom_eq_drop]
    simp

theorem replaceAll_self (h : pat ≠ []) : replaceAll pat new pat = new := by
  have hread : replaceAll pat new (pat ++ []) = new ++ replaceAll pat new [] :=
    replaceAll_append_of_occurrence h
  rwa [replaceAll_nil, List.append_nil, List.append_nil] at hread

/-- A character where no occurrence starts is copied. -/
theorem replaceAll_cons_of_no_occurrence (h : ¬ pat <+: c :: s) :
    replaceAll pat new (c :: s) = c :: replaceAll pat new s := by
  have hpat : pat ≠ [] := by
    rintro rfl
    exact h List.nil_prefix
  rw [replaceAll_eq hpat, replaceAll_eq hpat, replaceFrom,
    if_neg (mt List.isPrefixOf_iff_prefix.mp h)]

/-- A part of a text is copied if no occurrence starts in it. -/
theorem replaceAll_append_of_no_start (h : ∀ u, u ≠ [] → u <:+ s → ¬ pat <+: u ++ t) :
    replaceAll pat new (s ++ t) = s ++ replaceAll pat new t := by
  induction s with
  | nil => rfl
  | cons c cs ih =>
    have hrest : ∀ u, u ≠ [] → u <:+ cs → ¬ pat <+: u ++ t :=
      fun u hu hsuffix => h u hu (hsuffix.trans (List.suffix_cons c cs))
    have hhere := h (c :: cs) (by simp) List.suffix_rfl
    rw [List.cons_append] at hhere ⊢
    rw [replaceAll_cons_of_no_occurrence hhere, ih hrest, List.cons_append]

theorem replaceAll_of_not_occurs (h : ¬ pat <:+: s) : replaceAll pat new s = s := by
  have hcopied : replaceAll pat new (s ++ []) = s ++ replaceAll pat new [] := by
    refine replaceAll_append_of_no_start fun u _ hsuffix hstart => h ?_
    rw [List.append_nil] at hstart
    exact hstart.isInfix.trans hsuffix.isInfix
  rwa [replaceAll_nil, List.append_nil] at hcopied

theorem toList_replaceString (p n s : String) :
    (replaceString p n s).toList = replaceAll p.toList n.toList s.toList := String.toList_ofList

theorem toList_ne_nil {s : String} (h : s ≠ "") : s.toList ≠ [] :=
  fun hnil => h (String.toList_eq_nil_iff.mp hnil)

theorem replaceString_self {p : String} (h : p ≠ "") (n : String) : replaceString p n p = n := by
  rw [← String.toList_inj, toList_replaceString, replaceAll_self (toList_ne_nil h)]

/-- Nothing but the word itself is as long as the word and has it. -/
theorem replaceString_of_length_eq {p n s : String} (hlength : s.toList.length = p.toList.length)
    (hne : s ≠ p) : replaceString p n s = s := by
  rw [← String.toList_inj, toList_replaceString]
  refine replaceAll_of_not_occurs fun hoccurs => hne ?_
  exact String.toList_inj.mp (hoccurs.eq_of_length hlength.symm).symm

theorem occursIn_iff : occursIn pat s = true ↔ pat <:+: s := by
  induction s with
  | nil => rw [occursIn, List.isEmpty_iff, List.infix_nil]
  | cons c cs ih =>
    rw [occursIn, Bool.or_eq_true, List.isPrefixOf_iff_prefix, ih, List.infix_cons_iff]

/-! ## 2. Readings -/

/-- How a text is read: an occurrence of the pattern is replaced, any other character is copied. -/
inductive Replaced (pat new : List Char) : List Char → List Char → Prop
  | nil : Replaced pat new [] []
  | occurrence {s t : List Char} (h : Replaced pat new s t) :
      Replaced pat new (pat ++ s) (new ++ t)
  | copied {c : Char} {s t : List Char} (hno : ¬ pat <+: c :: s) (h : Replaced pat new s t) :
      Replaced pat new (c :: s) (c :: t)

theorem replaced_replaceAll (hpat : pat ≠ []) (s : List Char) :
    Replaced pat new s (replaceAll pat new s) := by
  -- an occurrence is taken as a whole, so the induction is on the length
  induction hn : s.length using Nat.strong_induction_on generalizing s with
  | _ n ih =>
    subst hn
    cases s with
    | nil =>
      rw [replaceAll_nil]
      exact .nil
    | cons c cs =>
      by_cases hstart : pat <+: c :: cs
      · obtain ⟨rest, hrest⟩ := hstart
        have hshorter : rest.length < (c :: cs).length := by
          have hpos := List.length_pos_iff.mpr hpat
          rw [← hrest, List.length_append]
          omega
        rw [← hrest, replaceAll_append_of_occurrence hpat]
        exact .occurrence (ih rest.length hshorter rest rfl)
      · rw [replaceAll_cons_of_no_occurrence hstart]
        exact .copied hstart (ih cs.length (Nat.lt_succ_self _) cs rfl)

/-- A word that has no character of what stands first begins after it. -/
theorem occurs_after_disjoint (hw : ∀ c ∈ s, c ∉ w) (h : w <:+: s ++ t) : w <:+: t := by
  rcases List.infix_append_iff.mp h with hinside | hafter | ⟨l, r, rfl, hl, hr⟩
  · cases w with
    | nil => exact List.nil_infix
    | cons d w => exact absurd List.mem_cons_self (hw d (hinside.subset List.mem_cons_self))
  · exact hafter
  · cases l with
    | nil => exact hr.isInfix
    | cons d l => exact absurd List.mem_cons_self (hw d (hl.subset List.mem_cons_self))

namespace Replaced

theorem starts_of_starts (h : Replaced pat new s t) (hnew : new ≠ []) (hw : ∀ c ∈ new, c ∉ w)
    (hstarts : w <+: t) : w <+: s := by
  induction h generalizing w with
  | nil => exact hstarts
  | occurrence _ _ =>
    cases w with
    | nil => exact List.nil_prefix
    | cons d w =>
      obtain ⟨n, ns, rfl⟩ := List.exists_cons_of_ne_nil hnew
      obtain ⟨rfl, -⟩ := List.cons_prefix_cons.mp hstarts
      exact absurd List.mem_cons_self (hw d List.mem_cons_self)
  | copied _ _ ih =>
    cases w with
    | nil => exact List.nil_prefix
    | cons d w =>
      obtain ⟨rfl, hrest⟩ := List.cons_prefix_cons.mp hstarts
      have hw' : ∀ c ∈ new, c ∉ w := fun c hc hmem => hw c hc (List.mem_cons_of_mem d hmem)
      exact List.cons_prefix_cons.mpr ⟨rfl, ih hw' hrest⟩

/-- **A word of which nothing is inserted is found only where it stood.** -/
theorem occurs_of_occurs (h : Replaced pat new s t) (hnew : new ≠ []) (hw : ∀ c ∈ new, c ∉ w)
    (hoccurs : w <:+: t) : w <:+: s := by
  induction h with
  | nil => exact hoccurs
  | occurrence _ ih =>
    have hearlier := ih (occurs_after_disjoint hw hoccurs)
    exact hearlier.trans (List.suffix_append _ _).isInfix
  | copied hno h ih =>
    rcases List.infix_cons_iff.mp hoccurs with hhere | hlater
    · exact ((copied hno h).starts_of_starts hnew hw hhere).isInfix
    · exact (ih hlater).trans (List.suffix_cons _ _).isInfix

/-- **The pattern is gone** if nothing of it is inserted. -/
theorem not_occurs (h : Replaced pat new s t) (hpat : pat ≠ []) (hnew : new ≠ [])
    (hdisjoint : ∀ c ∈ new, c ∉ pat) : ¬ pat <:+: t := by
  induction h with
  | nil => exact fun hoccurs => hpat (List.infix_nil.mp hoccurs)
  | occurrence _ ih => exact fun hoccurs => ih (occurs_after_disjoint hdisjoint hoccurs)
  | copied hno h ih =>
    intro hoccurs
    rcases List.infix_cons_iff.mp hoccurs with hhere | hlater
    · exact hno ((copied hno h).starts_of_starts hnew hdisjoint hhere)
    · exact ih hlater

/-- A word that is closed by a character is not completed by inserting something that has not that
character and does not fit into the word. -/
theorem closed_starts (h : Replaced pat new s t) (hclose : c ∉ new) (hfit : ¬ new <:+: w)
    {v : List Char} (hv : v <:+ w) (hstarts : v ++ [c] <+: t) : v ++ [c] <+: s := by
  induction h generalizing v with
  | nil => exact hstarts
  | occurrence _ _ =>
    -- what is inserted would be a beginning of the closed word, and is neither all of it nor less
    exfalso
    rcases List.prefix_or_prefix_of_prefix hstarts (List.prefix_append new _) with hcovers | hshorter
    · exact hclose (hcovers.subset (List.mem_append_right v List.mem_cons_self))
    · rcases List.prefix_concat_iff.mp hshorter with rfl | hinside
      · exact hclose (List.mem_append_right v List.mem_cons_self)
      · exact hfit (hinside.isInfix.trans hv.isInfix)
  | @copied d s t _ _ ih =>
    cases v with
    | nil => exact List.cons_prefix_cons.mpr ⟨(List.cons_prefix_cons.mp hstarts).1, List.nil_prefix⟩
    | cons e v =>
      obtain ⟨rfl, hrest⟩ := List.cons_prefix_cons.mp hstarts
      exact List.cons_prefix_cons.mpr ⟨rfl, ih ((List.suffix_cons e v).trans hv) hrest⟩

/-- A text that has not all of what is inserted was copied. -/
theorem eq_of_not_mem (h : Replaced pat new s t) (hnew : c ∈ new) (ht : c ∉ t) : t = s := by
  induction h with
  | nil => rfl
  | occurrence _ _ => exact absurd (List.mem_append_left _ hnew) ht
  | copied _ _ ih => rw [ih (List.not_mem_of_not_mem_cons ht)]

theorem length_eq (h : Replaced pat new s t) (hlength : new.length = pat.length) :
    t.length = s.length := by
  induction h with
  | nil => rfl
  | occurrence _ ih => rw [List.length_append, List.length_append, hlength, ih]
  | copied _ _ ih => rw [List.length_cons, List.length_cons, ih]

/-- A replacement as long as the pattern shows, wherever it is made. -/
theorem eq_self_iff (h : Replaced pat new s t) (hpat : pat ≠ [])
    (hlength : new.length = pat.length) (hnew : new ≠ pat) : t = s ↔ ¬ pat <:+: s := by
  induction h with
  | nil => exact iff_of_true rfl fun hoccurs => hpat (List.infix_nil.mp hoccurs)
  | occurrence _ _ =>
    refine iff_of_false (fun heq => ?_) fun hno => hno (List.prefix_append _ _).isInfix
    exact hnew (List.append_inj heq hlength).1
  | copied hno _ ih =>
    rw [List.cons_inj_right, ih, List.infix_cons_iff]
    exact ⟨fun hlater hoccurs => hoccurs.elim hno hlater, fun hnone hlater => hnone (.inr hlater)⟩

end Replaced

/-- Words that are swapped for words as long leave a text as long as it was. -/
theorem length_replaceString {p n : String} (hlength : n.length = p.length) (s : String) :
    (replaceString p n s).length = s.length := by
  by_cases hempty : p = ""
  · have hsame : replaceString p n s = s := by
      rw [hempty]
      exact String.ofList_toList
    rw [hsame]
  · have hread : Replaced p.toList n.toList s.toList (replaceAll p.toList n.toList s.toList) :=
      replaced_replaceAll (toList_ne_nil hempty) s.toList
    have hsame := hread.length_eq (by rw [String.length_toList, String.length_toList, hlength])
    rw [← toList_replaceString, String.length_toList, String.length_toList] at hsame
    exact hsame

/-! ## 3. Words in the middle of a text -/

/-- A word occurs in a text only within the middle of it. -/
def Within (w before middle after : List Char) : Prop :=
  ∀ a b, before ++ middle ++ after = a ++ w ++ b →
    before.length ≤ a.length ∧ after.length ≤ b.length

/-- The condition as something to check, place by place. -/
theorem within_iff {before middle after : List Char} : Within w before middle after ↔
    ∀ i ≤ (before ++ middle ++ after).length, w <+: (before ++ middle ++ after).drop i →
      before.length ≤ i ∧ i + w.length ≤ before.length + middle.length := by
  constructor
  · rintro h i hi ⟨b, hb⟩
    have hcut : before ++ middle ++ after = (before ++ middle ++ after).take i ++ w ++ b := by
      rw [List.append_assoc (List.take i _), hb, List.take_append_drop]
    obtain ⟨hbefore, hafter⟩ := h _ b hcut
    have hlength := congrArg List.length hcut
    simp only [List.length_append, List.length_take] at hlength hbefore hi
    omega
  · intro h a b hcut
    have hlength := congrArg List.length hcut
    simp only [List.length_append] at hlength
    have hplace := h a.length (by rw [hcut]; simp)
      ⟨b, by rw [hcut, List.append_assoc, List.drop_left]⟩
    omega

instance (w before middle after : List Char) : Decidable (Within w before middle after) :=
  decidable_of_iff _ within_iff.symm

namespace Within

variable {before middle after rest : List Char}

theorem no_start (h : Within w before middle after) :
    ∀ u, u ≠ [] → u <:+ before → ¬ w <+: u ++ (middle ++ after) := by
  rintro u hu ⟨a, rfl⟩ ⟨b, hb⟩
  have hplace := (h a b (by simp only [List.append_assoc, ← hb])).1
  rw [List.length_append] at hplace
  exact hu (List.length_eq_zero_iff.mp (by omega))

theorem tail (h : Within w before middle after) (hmiddle : middle = s ++ rest) :
    Within w [] rest after := by
  intro a b hcut
  have hplace := (h (before ++ s ++ a) b (by rw [hmiddle]; simp [← hcut])).2
  exact ⟨Nat.zero_le _, hplace⟩

/-- What comes after the middle stays. -/
theorem replaceAll_append (h : Within pat [] s t) (hpat : pat ≠ []) :
    replaceAll pat new (s ++ t) = replaceAll pat new s ++ t := by
  -- the middle is read as it would be on its own, so the induction is over that reading
  have hread : Replaced pat new s (replaceAll pat new s) := replaced_replaceAll hpat s
  generalize replaceAll pat new s = s' at hread
  induction hread with
  | nil =>
    refine replaceAll_of_not_occurs fun ⟨a, b, hcut⟩ => ?_
    have hplace := (h a b hcut.symm).2
    have hlength := congrArg List.length hcut
    have hpos := List.length_pos_iff.mpr hpat
    simp only [List.length_append, List.length_nil] at hlength
    omega
  | occurrence _ ih =>
    rw [List.append_assoc, replaceAll_append_of_occurrence hpat, ih (h.tail rfl), List.append_assoc]
  | @copied c s _ hno _ ih =>
    have hstart : ¬ pat <+: c :: (s ++ t) := by
      rintro ⟨b, hb⟩
      have hplace := (h [] b hb.symm).2
      have hlength := congrArg List.length hb
      simp only [List.length_append, List.length_cons] at hlength
      refine hno (List.prefix_of_prefix_length_le ⟨b, hb⟩ (List.prefix_append (c :: s) t) ?_)
      rw [List.length_cons]
      omega
    rw [List.cons_append, replaceAll_cons_of_no_occurrence hstart, List.cons_append]
    exact congrArg (c :: ·) (ih (h.tail (s := [c]) rfl))

/-- A word as long as the middle is replaced if it is the middle. -/
theorem replaceAll_middle (h : Within pat before middle after) (hpat : pat ≠ [])
    (hlength : middle.length = pat.length) :
    replaceAll pat new (before ++ middle ++ after) =
      before ++ (if middle = pat then new else middle) ++ after := by
  rw [List.append_assoc, replaceAll_append_of_no_start h.no_start,
    (h.tail rfl (s := [])).replaceAll_append hpat, ← List.append_assoc]
  have hmiddle : replaceAll pat new middle = if middle = pat then new else middle := by
    split
    · rename_i hsame
      rw [hsame, replaceAll_self hpat]
    · rename_i hother
      exact replaceAll_of_not_occurs fun hoccurs =>
        hother (hoccurs.eq_of_length hlength.symm).symm
  rw [hmiddle]

end Within

/-! ## 4. Words that run into one another -/

/-- From some character of a text on, a word could be read, as far as the text goes. -/
def RunsInto (s w : List Char) : Prop := ∃ u, u ≠ [] ∧ u <:+ s ∧ (u <+: w ∨ w <+: u)

/-- The condition as something to check: a text has no more ends than it has characters. -/
theorem runsInto_iff : RunsInto s w ↔ ∃ u ∈ s.tails, u ≠ [] ∧ (u <+: w ∨ w <+: u) := by
  constructor
  · rintro ⟨u, hu, hsuffix, hruns⟩
    exact ⟨u, (List.mem_tails u s).mpr hsuffix, hu, hruns⟩
  · rintro ⟨u, htail, hu, hruns⟩
    exact ⟨u, hu, (List.mem_tails u s).mp htail, hruns⟩

instance (s w : List Char) : Decidable (RunsInto s w) := decidable_of_iff _ runsInto_iff.symm

namespace RunsInto

variable {u : List Char}

theorem of_start (hu : u ≠ []) (hsuffix : u <:+ s) (hstart : w <+: u ++ t) : RunsInto s w :=
  ⟨u, hu, hsuffix, List.prefix_or_prefix_of_prefix (List.prefix_append u t) hstart⟩

theorem mono (h : RunsInto s w) (hsuffix : s <:+ t) : RunsInto t w := by
  obtain ⟨u, hu, hs, hruns⟩ := h
  exact ⟨u, hu, hs.trans hsuffix, hruns⟩

/-- The word would begin in the text. -/
theorem head_mem (h : RunsInto s (c :: w)) : c ∈ s := by
  obtain ⟨u, hu, hsuffix, hruns⟩ := h
  obtain ⟨d, u, rfl⟩ := List.exists_cons_of_ne_nil hu
  have hsame : d = c := by
    rcases hruns with hruns | hruns
    · exact (List.cons_prefix_cons.mp hruns).1
    · exact (List.cons_prefix_cons.mp hruns).1.symm
  exact hsame ▸ hsuffix.mem List.mem_cons_self

theorem exists_mem (h : RunsInto s w) (hw : w ≠ []) : ∃ c ∈ s, c ∈ w := by
  obtain ⟨c, w, rfl⟩ := List.exists_cons_of_ne_nil hw
  exact ⟨c, h.head_mem, List.mem_cons_self⟩

/-- A word that stands in two texts on end stands in the second, or the first runs into it. -/
theorem of_occurs (hoccurs : w <:+: s ++ t) : RunsInto s w ∨ w <:+: t := by
  obtain ⟨before, after, hcut⟩ := hoccurs
  rw [List.append_assoc] at hcut
  rcases List.append_eq_append_iff.mp hcut with ⟨rest, rfl, hrest⟩ | ⟨rest, rfl, hrest⟩
  · cases rest with
    | nil => exact .inr (List.IsPrefix.isInfix ⟨after, hrest⟩)
    | cons c rest =>
      exact .inl (of_start (List.cons_ne_nil c rest) (List.suffix_append _ _) ⟨after, hrest⟩)
  · exact .inr ⟨rest, after, by rw [List.append_assoc, hrest]⟩

end RunsInto

/-- A part of a text is copied if the pattern cannot be read from it on. -/
theorem replaceAll_append_of_not_runsInto (h : ¬ RunsInto s pat) :
    replaceAll pat new (s ++ t) = s ++ replaceAll pat new t :=
  replaceAll_append_of_no_start fun _ hu hsuffix hstart => h (.of_start hu hsuffix hstart)

/-- A text in front of another does not matter to a word that cannot be read from it on. -/
theorem occurs_append_iff_right (h : ¬ RunsInto s w) : w <:+: s ++ t ↔ w <:+: t :=
  ⟨fun hoccurs => (RunsInto.of_occurs hoccurs).resolve_left h,
    fun hoccurs => hoccurs.trans (List.suffix_append s t).isInfix⟩

/-- The same of a text that comes after another, read backwards. -/
theorem occurs_append_iff_left (h : ¬ RunsInto t.reverse w.reverse) : w <:+: s ++ t ↔ w <:+: s := by
  rw [← List.reverse_infix, List.reverse_append, occurs_append_iff_right h, List.reverse_infix]

/-- A word does not go on over a character that it does not have. -/
theorem starts_append_cons_iff (h : c ∉ w) : w <+: s ++ c :: t ↔ w <+: s := by
  refine ⟨fun hstarts => ?_, fun hstarts => hstarts.trans (List.prefix_append s (c :: t))⟩
  induction s generalizing w with
  | nil =>
    cases w with
    | nil => exact List.prefix_rfl
    | cons d w => exact absurd (List.cons_prefix_cons.mp hstarts).1 (List.ne_of_not_mem_cons h).symm
  | cons d s ih =>
    cases w with
    | nil => exact List.nil_prefix
    | cons e w =>
      obtain ⟨rfl, hrest⟩ := List.cons_prefix_cons.mp hstarts
      exact List.cons_prefix_cons.mpr ⟨rfl, ih (List.not_mem_of_not_mem_cons h) hrest⟩

/-! ## 5. Parts of a text -/

theorem splitOnChar_of_not_mem (h : c ∉ s) : splitOnChar c s = [s] := by
  induction s with
  | nil => rfl
  | cons d s ih =>
    rw [List.mem_cons, not_or] at h
    rw [splitOnChar, if_neg (Ne.symm h.1), ih h.2]

theorem splitOnChar_ne_nil : splitOnChar c s ≠ [] := by
  cases s with
  | nil => exact List.cons_ne_nil _ _
  | cons d s =>
    rw [splitOnChar]
    split
    · exact List.cons_ne_nil _ _
    · split <;> exact List.cons_ne_nil _ _

/-- A separator cuts a text in two. -/
theorem splitOnChar_append (s t : List Char) :
    splitOnChar c (s ++ c :: t) = splitOnChar c s ++ splitOnChar c t := by
  induction s with
  | nil =>
    rw [List.nil_append]
    show (if c = c then [] :: splitOnChar c t else _) = [[]] ++ splitOnChar c t
    rw [if_pos rfl, List.singleton_append]
  | cons d s ih =>
    rw [List.cons_append, splitOnChar, splitOnChar, ih]
    split
    · rfl
    · cases hparts : splitOnChar c s with
      | nil => exact absurd hparts splitOnChar_ne_nil
      | cons part parts => rfl

end Text
end ClusterTriage
