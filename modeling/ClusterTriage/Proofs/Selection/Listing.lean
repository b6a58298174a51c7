import ClusterTriage.Proofs.NameMap
import ClusterTriage.Selection.Basic
import ClusterTriage.Selection.Filters
import Mathlib.Data.List.Induction
import Mathlib.Data.List.Nodup

/-!
# What is listed is what runs

The configured filters are resolved twice. `Filters.effective` says which filters are in effect, for
the list that a user reads; `Selection.ofFilters` says which analyzers a run is made of. Neither
calls the other, and they treat the default differently: one takes the names of the core group and
looks them up like any other names, the other takes the entries of the group as they are.

> **One lookup serves both**: whatever is configured, the selection is what the registry knows of
> the filters in effect (`ofFilters_eq_known_effective`).

For the default this needs that the core group is in order, hence that no name is bound in it twice.
A registry is only ever filled call by call, and that keeps its groups in order (`ofCalls_sorted`).
-/

namespace ClusterTriage

variable {α : Type} {name : String} {a : α}

/-! ## 1. Registries, call by call -/

/-- A call that adds an analyzer to a registry. -/
inductive Registration (α : Type) where
  | core (name : String) (a : α)
  | additional (name : String) (a : α)

/-- The analyzer that a call puts into the core group under a name. -/
def Registration.coreUnder (name : String) : Registration α → Option α
  | .core n a => if n = name then some a else none
  | .additional _ _ => none

/-- The analyzer that a call puts into the additional group under a name. -/
def Registration.additionalUnder (name : String) : Registration α → Option α
  | .core _ _ => none
  | .additional n a => if n = name then some a else none

namespace Registry

def register (r : Registry α) : Registration α → Registry α
  | .core name a => r.withCore name a
  | .additional name a => r.withAdditional name a

/-- The registry that calls build, one after another. -/
def ofCalls (calls : List (Registration α)) : Registry α := calls.foldl register {}

theorem ofCalls_concat (calls : List (Registration α)) (c : Registration α) :
    ofCalls (calls ++ [c]) = (ofCalls calls).register c := by
  simp [ofCalls, List.foldl_append]

/-- **The last call under a name counts**, in each group for itself. -/
theorem find?_ofCalls (calls : List (Registration α)) (name : String) :
    (ofCalls calls).core.find? name =
        (calls.filterMap (Registration.coreUnder name)).getLast? ∧
      (ofCalls calls).additional.find? name =
        (calls.filterMap (Registration.additionalUnder name)).getLast? := by
  induction calls using List.reverseRecOn with
  | nil => exact ⟨rfl, rfl⟩
  | append_singleton calls c ih =>
    obtain ⟨hcore, hadditional⟩ := ih
    rw [ofCalls_concat]
    cases c with
    | core n a =>
      refine ⟨?_, ?_⟩
      · show ((ofCalls calls).core.insert n a).find? name = _
        rw [NameMap.find?_insert, hcore]
        by_cases h : n = name
        · simp [Registration.coreUnder, h]
        · simp [Registration.coreUnder, h, Ne.symm h]
      · show (ofCalls calls).additional.find? name = _
        rw [hadditional]
        simp [Registration.additionalUnder]
    | additional n a =>
      refine ⟨?_, ?_⟩
      · show (ofCalls calls).core.find? name = _
        rw [hcore]
        simp [Registration.coreUnder]
      · show ((ofCalls calls).additional.insert n a).find? name = _
        rw [NameMap.find?_insert, hadditional]
        by_cases h : n = name
        · simp [Registration.additionalUnder, h]
        · simp [Registration.additionalUnder, h, Ne.symm h]

theorem ofCalls_sorted (calls : List (Registration α)) :
    (ofCalls calls).core.Sorted ∧ (ofCalls calls).additional.Sorted := by
  induction calls using List.reverseRecOn with
  | nil => exact ⟨NameMap.sorted_empty, NameMap.sorted_empty⟩
  | append_singleton calls c ih =>
    rw [ofCalls_concat]
    cases c with
    | core n a => exact ⟨ih.1.insert n a, ih.2⟩
    | additional n a => exact ⟨ih.1, ih.2.insert n a⟩

theorem mem_core_names_ofCalls {calls : List (Registration α)} :
    name ∈ (ofCalls calls).core.names ↔ ∃ a, .core name a ∈ calls := by
  rw [NameMap.mem_names_iff, (find?_ofCalls calls name).1, List.getLast?_isSome]
  constructor
  · intro h
    obtain ⟨a, ha⟩ := List.exists_mem_of_ne_nil _ h
    obtain ⟨c, hc, hname⟩ := List.mem_filterMap.mp ha
    cases c with
    | core n b =>
      simp only [Registration.coreUnder] at hname
      split at hname
      case isTrue h => exact ⟨b, h ▸ hc⟩
      case isFalse => cases hname
    | additional n b => cases hname
  · rintro ⟨a, hc⟩
    have hname : Registration.coreUnder name (.core name a) = some a := if_pos rfl
    exact List.ne_nil_of_mem (List.mem_filterMap.mpr ⟨_, hc, hname⟩)

variable {r : Registry α}

theorem contains_iff : r.contains name = true ↔ name ∈ r.names := by
  unfold contains find? names
  rw [List.mem_append, NameMap.mem_names_iff, NameMap.mem_names_iff]
  cases r.core.find? name <;> simp

theorem find?_of_core (h : r.core.find? name = some a) : r.find? name = some a := by
  simp [find?, h]

/-- A name that is bound after an addition is the added one, or it was bound before. -/
theorem of_find?_withCore {other : String} {b : α} (h : (r.withCore name a).find? other = some b) :
    other = name ∧ b = a ∨ r.find? other = some b := by
  rw [find?, withCore, NameMap.find?_insert] at h
  split at h
  case isTrue hname => exact .inl ⟨hname, (Option.some.inj h).symm⟩
  case isFalse => exact .inr h

theorem of_find?_withAdditional {other : String} {b : α}
    (h : (r.withAdditional name a).find? other = some b) :
    other = name ∧ b = a ∨ r.find? other = some b := by
  rw [find?, withAdditional, NameMap.find?_insert] at h
  cases hcore : r.core.find? other with
  | some c =>
    rw [hcore] at h
    exact .inr (by rw [find?, hcore]; exact h)
  | none =>
    rw [hcore] at h
    split at h
    case isTrue hname => exact .inl ⟨hname, (Option.some.inj h).symm⟩
    case isFalse => exact .inr (by rw [find?, hcore]; exact h)

theorem find?_map {β : Type} (f : α → β) (r : Registry α) (name : String) :
    (r.map f).find? name = (r.find? name).map f := by
  rw [find?, find?, map, NameMap.find?_map, NameMap.find?_map]
  cases r.core.find? name <;> rfl

end Registry

/-! ## 2. What the registry knows of some names -/

namespace Selection

variable {r : Registry α} {names : List String}

theorem known_names : (known r names).map (·.1) = names.filter r.contains := by
  unfold known
  induction names with
  | nil => rfl
  | cons n rest ih =>
    cases h : r.find? n with
    | none => simpa [h, Registry.contains] using ih
    | some a => simpa [h, Registry.contains] using ih

theorem find?_of_mem_known {e : String × α} (h : e ∈ known r names) : r.find? e.1 = some e.2 := by
  obtain ⟨n, -, hn⟩ := List.mem_filterMap.mp h
  obtain ⟨a, ha, rfl⟩ := Option.map_eq_some_iff.mp hn
  exact ha

/-- Every name is either known or unknown, occurrence by occurrence. -/
theorem length_known_add_unknown :
    (known r names).length + (unknown r names).length = names.length := by
  have hknown : (known r names).length = (names.filter r.contains).length := by
    rw [← known_names, List.length_map]
  rw [hknown, unknown, ← List.length_eq_length_filter_add]

theorem known_core_names (h : r.core.Sorted) : known r r.core.names = r.core.entries := by
  have hbound : ∀ e ∈ r.core.entries, (r.find? e.1).map (e.1, ·) = some e := by
    rintro ⟨n, a⟩ he
    rw [Registry.find?_of_core (h.mem_entries.mp he)]
    rfl
  unfold known NameMap.names
  rw [List.filterMap_map]
  exact (List.filterMap_congr hbound).trans List.filterMap_some

/-- Whatever is selected is what the registry knows under its name. -/
theorem find?_of_mem_ofFilters {explicit active : List String} {e : String × α} (h : r.core.Sorted)
    (he : e ∈ (ofFilters explicit active r).analyzers) : r.find? e.1 = some e.2 := by
  unfold ofFilters at he
  split at he
  · exact find?_of_mem_known he
  · split at he
    · exact find?_of_mem_known he
    · exact Registry.find?_of_core (h.mem_entries.mp he)

/-- **A selection without a request is what the registry knows of the filters in effect.** -/
theorem ofFilters_eq_known_effective (s : Settings) (h : r.core.Sorted) :
    (ofFilters [] s.analysis.activeFilters r).analyzers = known r (Filters.effective s r) := by
  unfold ofFilters Filters.effective
  cases s.analysis.activeFilters with
  | nil => exact (known_core_names h).symm
  | cons n rest => rfl

theorem ofFilters_of_request (active : List String) (h : names ≠ []) :
    ofFilters names active r =
      ⟨.explicit, known r names, (unknown r names).map unknownFilter⟩ := by
  unfold ofFilters
  cases names with
  | nil => exact absurd rfl h
  | cons n rest => rfl

end Selection

/-! ## 3. The list -/

namespace Filters

/-- The known names that are not in effect. -/
def unused (s : Settings) (r : Registry α) : List String :=
  r.names.filter (· ∉ effective s r)

theorem nodup_unused {r : Registry α} (s : Settings) (hcore : r.core.Sorted)
    (hadditional : r.additional.Sorted) (hd : r.core.names.Disjoint r.additional.names) :
    (unused s r).Nodup :=
  (List.nodup_append'.mpr ⟨hcore.nodup, hadditional.nodup, hd⟩).filter _

end Filters

/-! ## 4. Agreement -/

/-- **What is listed as active runs, and nothing else does.** For a registry built by any calls: the
list starts with the filters in effect, each on a line of its own below a heading, and without a request
the analyzers that run are the known ones among these, in their order and as often as they are there, each
bound to what the registry has under its name; nothing is reported. What the registry has under a name is
the last core analyzer that was put there, or else the last additional one. Without configured filters the
core names run, in order and once each. If no name is in both groups, the names listed as unused are those
that are known and do not run, once each. And a request goes by the names asked for alone: the known ones
run, and each occurrence of an unknown one is reported. -/
theorem listed_filters_are_those_that_run (calls : List (Registration α)) (s : Settings)
    (colour : Bool) :
    let r := Registry.ofCalls calls
    let listed := Filters.effective s r
    let unused := Filters.unused s r
    let selected := Selection.ofFilters [] s.analysis.activeFilters r
    (∃ customAnalyzers, (s.analysis.plugins = [] → customAnalyzers = []) ∧
      Filters.listLines colour s r =
        (Text.styled colour [.bold] "Active:" ::
            listed.map fun name => "> " ++ Text.styled colour [.green] name) ++
          (if unused.isEmpty then [] else Text.styled colour [.bold] "Unused:" ::
            unused.map fun name => "> " ++ Text.styled colour [.red] name) ++
          customAnalyzers) ∧
    selected.analyzers.map (·.1) = listed.filter r.contains ∧
    (∀ e ∈ selected.analyzers, r.find? e.1 = some e.2) ∧
    selected.errors = [] ∧
    (∀ name, r.find? name =
      ((calls.filterMap (Registration.coreUnder name)).getLast?).or
        (calls.filterMap (Registration.additionalUnder name)).getLast?) ∧
    (s.analysis.activeFilters = [] →
      selected.analyzers.map (·.1) = listed ∧ listed.Pairwise (· < ·) ∧
      ∀ name, name ∈ listed ↔ ∃ a, .core name a ∈ calls) ∧
    (r.core.names.Disjoint r.additional.names →
      unused.Nodup ∧
      ∀ name, name ∈ unused ↔ r.contains name = true ∧ name ∉ selected.analyzers.map (·.1)) ∧
    (∀ asked active, asked ≠ [] →
      let chosen := Selection.ofFilters asked active r
      chosen.analyzers.map (·.1) = asked.filter r.contains ∧
      (∀ e ∈ chosen.analyzers, r.find? e.1 = some e.2) ∧
      chosen.errors = (asked.filter fun name => !r.contains name).map Selection.unknownFilter ∧
      chosen.analyzers.length + chosen.errors.length = asked.length ∧
      chosen = Selection.ofFilters asked [] r) := by
  intro r listed unused selected
  obtain ⟨hcore, hadditional⟩ : r.core.Sorted ∧ r.additional.Sorted := Registry.ofCalls_sorted calls
  have hselected : selected.analyzers = Selection.known r listed :=
    Selection.ofFilters_eq_known_effective s hcore
  have hnames : selected.analyzers.map (·.1) = listed.filter r.contains := by
    rw [hselected]
    exact Selection.known_names
  refine ⟨⟨_, fun hnone => ?_, rfl⟩, hnames, ?_, ?_, ?_, ?_, ?_, ?_⟩
  · simp [hnone]
  · intro e he
    rw [hselected] at he
    exact Selection.find?_of_mem_known he
  · show (Selection.ofFilters [] s.analysis.activeFilters r).errors = []
    unfold Selection.ofFilters
    cases s.analysis.activeFilters <;> rfl
  · intro name
    obtain ⟨hc, ha⟩ := Registry.find?_ofCalls calls name
    rw [← hc, ← ha, Registry.find?, Option.orElse_eq_or]
  · intro hnone
    have hlisted : listed = r.core.names := by
      show Filters.effective s r = _
      simp [Filters.effective, hnone]
    refine ⟨?_, hlisted ▸ hcore, fun name => ?_⟩
    · -- every core name is known, so the filter drops none
      rw [hnames, List.filter_eq_self]
      intro name hname
      rw [Registry.contains_iff, Registry.names, ← hlisted]
      exact List.mem_append_left _ hname
    · rw [hlisted]
      exact Registry.mem_core_names_ofCalls
  · intro hd
    refine ⟨Filters.nodup_unused s hcore hadditional hd, fun name => ?_⟩
    rw [hnames]
    simp only [unused, Filters.unused, List.mem_filter, decide_eq_true_eq, Registry.contains_iff]
    constructor
    · rintro ⟨hknown, hidle⟩
      exact ⟨hknown, fun h => hidle h.1⟩
    · rintro ⟨hknown, hidle⟩
      exact ⟨hknown, fun h => hidle ⟨h, hknown⟩⟩
  · intro asked active hasked chosen
    have hchosen : chosen = _ := Selection.ofFilters_of_request active hasked
    rw [hchosen]
    refine ⟨Selection.known_names, fun e he => Selection.find?_of_mem_known he, rfl, ?_,
      (Selection.ofFilters_of_request [] hasked).symm⟩
    rw [List.length_map]
    exact Selection.length_known_add_unknown

end ClusterTriage
