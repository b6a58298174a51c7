import ClusterTriage.Plugin.Basic
import ClusterTriage.Proofs.Text.Pattern

/-!
# Which entries are usable

A custom analyzer is configured by a name, an address and a port, and `Plugin.validate` says whether
that can be used. For the name it tries the pattern `subdomain`, in which hyphens and points are placed
by nested repetition. What a subdomain is can be said without any pattern: cut the name at its points,
and look at the labels.

> **The pattern and the labels agree** on every text (`isSubdomain_iff`),

so a name is refused for what one of its labels is like and for nothing else: not for its length, and a
line break at its end is a character like any other. The remaining checks are made in their order, and
the first that fails is the one that is reported (`entries_are_validated_exactly`).
-/

namespace ClusterTriage
namespace Plugin

open Text (Pattern)

variable {s : List Char} {c : Char} {p : Plugin}

/-! ## 1. Labels -/

theorem isNameChar_iff : isNameChar c = true ↔ ('a' ≤ c ∧ c ≤ 'z') ∨ ('0' ≤ c ∧ c ≤ '9') := by
  simp [isNameChar]

/-- A label of a subdomain. -/
structure IsLabel (s : List Char) : Prop where
  ne_nil : s ≠ []
  chars : ∀ c ∈ s, ('a' ≤ c ∧ c ≤ 'z') ∨ ('0' ≤ c ∧ c ≤ '9') ∨ c = '-'
  first : s.head? ≠ some '-'
  last : s.getLast? ≠ some '-'

theorem isLabel_iff : IsLabel s ↔ s ≠ [] ∧ (∀ c ∈ s, isNameChar c = true ∨ c = '-') ∧
    s.head? ≠ some '-' ∧ s.getLast? ≠ some '-' := by
  simp only [isNameChar_iff, or_assoc]
  exact ⟨fun ⟨hne, hchars, hfirst, hlast⟩ => ⟨hne, hchars, hfirst, hlast⟩,
    fun ⟨hne, hchars, hfirst, hlast⟩ => ⟨hne, hchars, hfirst, hlast⟩⟩

instance (s : List Char) : Decidable (IsLabel s) :=
  decidable_of_iff (s ≠ [] ∧ s.all (fun c => isNameChar c || c == '-') = true ∧
    s.head? ≠ some '-' ∧ s.getLast? ≠ some '-') (by simp [isLabel_iff])

/-- There is no point in a label. -/
theorem IsLabel.no_point (h : IsLabel s) : '.' ∉ s :=
  fun hpoint => absurd (h.chars '.' hpoint) (by decide)

theorem IsLabel.isNameChar_of_ne (h : IsLabel s) (hc : c ∈ s) (hne : c ≠ '-') :
    isNameChar c = true :=
  ((isLabel_iff.mp h).2.1 c hc).resolve_right hne

/-- A label by its ends: it is one letter or digit, or begins with one and ends with another. -/
theorem isLabel_iff_ends : IsLabel s ↔ ∃ c, isNameChar c = true ∧
    (s = [c] ∨ ∃ inner d, isNameChar d = true ∧ (∀ x ∈ inner, isNameChar x = true ∨ x = '-') ∧
      s = c :: (inner ++ [d])) := by
  have hhyphen (c : Char) (hc : isNameChar c = true) : c ≠ '-' := by
    rintro rfl
    exact absurd hc (by decide)
  constructor
  · intro h
    obtain ⟨c, rest, rfl⟩ := List.exists_cons_of_ne_nil h.ne_nil
    have hc : isNameChar c = true :=
      h.isNameChar_of_ne List.mem_cons_self fun heq => h.first (congrArg some heq)
    refine ⟨c, hc, ?_⟩
    rcases List.eq_nil_or_concat rest with rfl | ⟨inner, d, rfl⟩
    · exact .inl rfl
    · rw [List.concat_eq_append] at h ⊢
      have hlast : (c :: (inner ++ [d])).getLast? = some d := List.getLast?_concat (l := c :: inner)
      have hd : isNameChar d = true :=
        h.isNameChar_of_ne (List.mem_of_getLast? hlast) fun heq => h.last (heq ▸ hlast)
      refine .inr ⟨inner, d, hd, fun x hx => (isLabel_iff.mp h).2.1 x ?_, rfl⟩
      exact List.mem_cons_of_mem c (List.mem_append_left _ hx)
  · rintro ⟨c, hc, rfl | ⟨inner, d, hd, hinner, rfl⟩⟩
    · refine isLabel_iff.mpr ⟨List.cons_ne_nil c [], fun x hx => ?_, ?_, ?_⟩
      · exact .inl (List.mem_singleton.mp hx ▸ hc)
      · exact fun heq => hhyphen c hc (Option.some.inj heq)
      · exact fun heq => hhyphen c hc (Option.some.inj heq)
    · refine isLabel_iff.mpr ⟨List.cons_ne_nil c _, fun x hx => ?_, ?_, ?_⟩
      · rcases List.mem_cons.mp hx with rfl | hx
        · exact .inl hc
        · rcases List.mem_append.mp hx with hx | hx
          · exact hinner x hx
          · exact .inl (List.mem_singleton.mp hx ▸ hd)
      · exact fun heq => hhyphen c hc (Option.some.inj heq)
      · rw [show c :: (inner ++ [d]) = c :: inner ++ [d] from rfl, List.getLast?_concat]
        exact fun heq => hhyphen d hd (Option.some.inj heq)

/-- **The pattern of a label says what a label is.** -/
theorem mem_language_label : s ∈ label.language ↔ IsLabel s := by
  have hinner (t : List Char) :
      t ∈ (Pattern.many (.one fun c => c == '-' || isNameChar c)).language ↔
        ∀ x ∈ t, isNameChar x = true ∨ x = '-' := by
    simp only [Pattern.mem_language_many_one, Bool.or_eq_true, beq_iff_eq, or_comm]
  rw [isLabel_iff_ends]
  constructor
  · rintro ⟨_, ⟨c, hc, rfl⟩, _, ⟨inner, hmany, _, ⟨d, hd, rfl⟩, rfl⟩ | rfl, rfl⟩
    · exact ⟨c, hc, .inr ⟨inner, d, hd, (hinner inner).mp hmany, rfl⟩⟩
    · exact ⟨c, hc, .inl rfl⟩
  · rintro ⟨c, hc, rfl | ⟨inner, d, hd, hmany, rfl⟩⟩
    · exact ⟨[c], ⟨c, hc, rfl⟩, [], .inr rfl, rfl⟩
    · exact ⟨[c], ⟨c, hc, rfl⟩, inner ++ [d],
        .inl ⟨inner, (hinner inner).mpr hmany, [d], ⟨d, hd, rfl⟩, rfl⟩, rfl⟩

/-! ## 2. Subdomains -/

/-- Labels with a point in front of each. -/
def pointed (labels : List (List Char)) : List Char := labels.flatMap ('.' :: ·)

theorem append_pointed (first : List Char) (labels : List (List Char)) :
    first ++ pointed labels = ['.'].intercalate (first :: labels) := by
  induction labels generalizing first with
  | nil => rw [List.intercalate_singleton]; exact List.append_nil first
  | cons l labels ih =>
    rw [List.intercalate_cons_cons, ← ih l, List.append_assoc]
    rfl

theorem mem_language_pointed :
    s ∈ (Pattern.many (.seq (.one (· == '.')) label)).language ↔
      ∃ labels, (∀ l ∈ labels, IsLabel l) ∧ s = pointed labels := by
  constructor
  · intro h
    obtain ⟨rounds, rfl, hrounds⟩ := Language.mem_kstar.mp h
    clear h
    induction rounds with
    | nil => exact ⟨[], List.forall_mem_nil _, rfl⟩
    | cons round rounds ih =>
      obtain ⟨hround, hrest⟩ := List.forall_mem_cons.mp hrounds
      obtain ⟨labels, hlabels, heq⟩ := ih hrest
      obtain ⟨_, ⟨c, hc, rfl⟩, l, hl, rfl⟩ := hround
      obtain rfl := eq_of_beq hc
      refine ⟨l :: labels, List.forall_mem_cons.mpr ⟨mem_language_label.mp hl, hlabels⟩, ?_⟩
      rw [List.flatten_cons, heq]
      rfl
  · rintro ⟨labels, hlabels, rfl⟩
    refine Language.mem_kstar.mpr ⟨labels.map ('.' :: ·), rfl, fun round hround => ?_⟩
    obtain ⟨l, hl, rfl⟩ := List.mem_map.mp hround
    exact ⟨['.'], ⟨'.', rfl, rfl⟩, l, mem_language_label.mpr (hlabels l hl), rfl⟩

/-- A subdomain is made of labels with points between them. -/
theorem mem_language_subdomain : s ∈ subdomain.language ↔
    ∃ labels, labels ≠ [] ∧ (∀ l ∈ labels, IsLabel l) ∧ s = ['.'].intercalate labels := by
  constructor
  · rintro ⟨first, hfirst, _, hrest, rfl⟩
    obtain ⟨labels, hlabels, rfl⟩ := mem_language_pointed.mp hrest
    exact ⟨first :: labels, List.cons_ne_nil _ _,
      List.forall_mem_cons.mpr ⟨mem_language_label.mp hfirst, hlabels⟩, append_pointed first labels⟩
  · rintro ⟨labels, hne, hlabels, rfl⟩
    obtain ⟨first, labels, rfl⟩ := List.exists_cons_of_ne_nil hne
    obtain ⟨hfirst, hrest⟩ := List.forall_mem_cons.mp hlabels
    rw [← append_pointed]
    exact ⟨first, mem_language_label.mpr hfirst, pointed labels,
      mem_language_pointed.mpr ⟨labels, hrest, rfl⟩, rfl⟩

/-- **A text is a subdomain exactly if its parts between points are labels.** -/
theorem isSubdomain_iff (s : List Char) :
    isSubdomain s = true ↔ ∀ l ∈ s.splitOn '.', IsLabel l := by
  rw [isSubdomain, Pattern.fits_iff, mem_language_subdomain]
  constructor
  · rintro ⟨labels, hne, hlabels, rfl⟩
    rwa [List.splitOn_intercalate '.' (fun l hl => (hlabels l hl).no_point) hne]
  · intro h
    exact ⟨s.splitOn '.', List.splitOn_ne_nil '.' s, h, (List.intercalate_splitOn '.').symm⟩

/-! ## 3. Entries -/

/-- The entry has a name that can be used. -/
def Named (p : Plugin) : Prop := ∀ l ∈ p.name.toList.splitOn '.', IsLabel l

/-- The entry has an address that is not blank. -/
def Addressed (p : Plugin) : Prop := ∃ c ∈ p.url.toList, Text.isBlank c = false

instance (p : Plugin) : Decidable p.Named := inferInstanceAs (Decidable (∀ l ∈ _, IsLabel l))

instance (p : Plugin) : Decidable p.Addressed :=
  inferInstanceAs (Decidable (∃ c ∈ p.url.toList, _))

theorem isBlankString_url : Text.isBlankString p.url = true ↔ ¬ p.Addressed := by
  rw [Text.isBlankString, List.all_eq_true]
  simp [Addressed]

/-- The checks in their order. -/
theorem validate_eq (p : Plugin) : p.validate =
    if ¬ p.Named then .error (.invalidName p.name)
    else if ¬ p.Addressed then .error (.invalidConnection p.name "url is empty")
    else if p.port = 0 then .error (.invalidConnection p.name "port must be non-zero")
    else .ok () := by
  have hname : (!isSubdomain p.name.toList) = true ↔ ¬ p.Named := by
    rw [Bool.not_eq_true', ← Bool.not_eq_true, isSubdomain_iff]
    rfl
  exact if_congr hname rfl (if_congr isBlankString_url rfl rfl)

/-- **Entries are validated exactly.** A text is taken for a subdomain if and only if each of its parts
between points is a label: not empty, of lowercase letters, digits and hyphens, without a hyphen at
either end. An entry is usable if and only if its name is such a text, its address has a character that
is not blank, and its port is not zero; and otherwise what is reported is the first of these that is not
so. -/
theorem entries_are_validated_exactly :
    (∀ s : String, isSubdomain s.toList = true ↔ ∀ l ∈ s.toList.splitOn '.', IsLabel l) ∧
    ∀ p : Plugin,
      (p.validate = .ok () ↔ p.Named ∧ p.Addressed ∧ p.port ≠ 0) ∧
      (p.validate = .error (.invalidName p.name) ↔ ¬ p.Named) ∧
      (p.validate = .error (.invalidConnection p.name "url is empty") ↔ p.Named ∧ ¬ p.Addressed) ∧
      (p.validate = .error (.invalidConnection p.name "port must be non-zero") ↔
        p.Named ∧ p.Addressed ∧ p.port = 0) := by
  refine ⟨fun s => isSubdomain_iff s.toList, fun p => ?_⟩
  rw [validate_eq]
  by_cases hnamed : p.Named
  · by_cases haddressed : p.Addressed
    · by_cases hport : p.port = 0
      · simp [hnamed, haddressed, hport]
      · simp [hnamed, haddressed, hport]
    · simp [hnamed, haddressed]
  · simp [hnamed]

/-- Labels may hold more than one hyphen on end, but end with none. -/
example : isSubdomain "team.disk--usage".toList = true ∧
    isSubdomain "team-.disk-usage".toList = false := by decide

/-- A line break is not overlooked. -/
example : isSubdomain "disk-usage\n".toList = false := by decide

end Plugin
end ClusterTriage
