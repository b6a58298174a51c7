import ClusterTriage.Program.Filters
import ClusterTriage.Proofs.Selection.Listing

/-!
# Edits of the filters in effect

Two lists are called the filters: the one that is stored, and the one in effect, which is the core
group as long as nothing is stored. An edit reads the second and writes the first. Afterwards the one
that was written is in effect, unless it is empty:

> **What is stored is in effect, except that nothing stored means the core group**
> (`effective_withActive`).

An addition never stores an empty list where the core group has names, so it does to the filters in
effect what it says (`added_filters_are_exact`). A removal can. What was removed is out of effect
exactly if something is left, or if none of it is in the core group (`removed_filters_are_inactive`);
whoever removes the last filter has the core group back (`a_removed_filter_comes_back`).
-/

namespace ClusterTriage
namespace Filters

variable {α : Type} {s : Settings} {r : Registry α} {active names : List String} {name : String}

/-! ## 1. What is in effect after an edit -/

theorem effective_eq (s : Settings) (r : Registry α) : effective s r =
    if s.analysis.activeFilters = [] then r.core.names else s.analysis.activeFilters := by
  unfold effective
  cases s.analysis.activeFilters with
  | nil => rfl
  | cons n rest => rfl

theorem effective_withActive (s : Settings) (active : List String) (r : Registry α) :
    effective (withActive s active) r = if active = [] then r.core.names else active := by
  cases active <;> rfl

/-- Nothing is in effect only where there is nothing to fall back on. -/
theorem core_names_of_effective_eq_nil (h : effective s r = []) : r.core.names = [] := by
  unfold effective at h
  cases hactive : s.analysis.activeFilters with
  | nil => simpa [hactive] using h
  | cons n rest => simp [hactive] at h

/-- The filters in effect stay in effect if they are stored, with more behind them or without. -/
theorem effective_withActive_append (s : Settings) (more : List String) (r : Registry α) :
    effective (withActive s (effective s r ++ more)) r = effective s r ++ more := by
  rw [effective_withActive]
  split
  case isTrue h => rw [h, core_names_of_effective_eq_nil (List.append_eq_nil_iff.mp h).1]
  case isFalse => rfl

theorem effective_withActive_self (s : Settings) (r : Registry α) :
    effective (withActive s (effective s r)) r = effective s r := by
  simpa using effective_withActive_append s [] r

/-- Without a request, what runs is what the registry knows of the filters in effect. -/
theorem running_names (s : Settings) (r : Registry α) :
    (Selection.ofFilters [] s.analysis.activeFilters r).analyzers.map (·.1) =
      (effective s r).filter r.contains := by
  unfold Selection.ofFilters effective
  cases s.analysis.activeFilters with
  | nil =>
    have hknown : ∀ name ∈ r.core.names, r.contains name = true := fun name hname =>
      Registry.contains_iff.mpr (List.mem_append_left _ hname)
    exact (List.filter_eq_self.mpr hknown).symm
  | cons n rest => exact Selection.known_names

/-! ## 2. The first name that is in the way -/

/-- The first of some names that has a property. -/
def First (p : String → Prop) (names : List String) (name : String) : Prop :=
  p name ∧ ∃ before after, names = before ++ name :: after ∧ ∀ n ∈ before, ¬ p n

theorem find?_eq_some_iff_first {q : String → Bool} :
    names.find? q = some name ↔ First (q · = true) names name := by
  simp [First, List.find?_eq_some_iff_append]

theorem exists_find?_eq_some {q : String → Bool} (h : ∃ n ∈ names, q n = true) :
    ∃ name, names.find? q = some name :=
  Option.isSome_iff_exists.mp (List.find?_isSome.mpr h)

/-! ## 3. Removals -/

theorem remove_of_inactive (h : ∃ n ∈ names, n ∉ effective s r) :
    ∃ name, First (· ∉ effective s r) names name ∧ remove s names r = .error (.inactive name) := by
  obtain ⟨name, hname⟩ := exists_find?_eq_some (q := (· ∉ effective s r)) (by simpa using h)
  refine ⟨name, by simpa using find?_eq_some_iff_first.mp hname, ?_⟩
  rw [remove, hname]

theorem remove_of_active (h : ∀ n ∈ names, n ∈ effective s r) :
    remove s names r = .ok (withActive s ((effective s r).filter (· ∉ names))) := by
  have hnone : (names.find? fun name => name ∉ effective s r) = none := by
    rw [List.find?_eq_none]
    intro n hn
    simpa using h n hn
  rw [remove, hnone]

/-- **What was removed is out of effect, if something is left.** A removal of a name that is not in
effect is refused for the first such name, and a refusal comes without settings. Any other removal
stores the filters in effect without the removed names, in their order, and changes nothing else. If
some are left, or if there is no core group, these are the filters in effect, and a run goes by them.
If none are left, the core group is in effect. So the removed names are out of effect unless none are
left and the core group has one of them. -/
theorem removed_filters_are_inactive (s : Settings) (r : Registry α) (names : List String) :
    let before := effective s r
    let kept := before.filter (· ∉ names)
    ((∃ n ∈ names, n ∉ before) →
      ∃ name, First (· ∉ before) names name ∧ remove s names r = .error (.inactive name)) ∧
    ((∀ n ∈ names, n ∈ before) →
      ∃ s', remove s names r = .ok s' ∧
        s' = { s with analysis := { s.analysis with activeFilters := kept } } ∧
        (effective s' r = kept ↔ kept ≠ [] ∨ r.core.names = []) ∧
        (kept = [] → effective s' r = r.core.names) ∧
        ((∀ n ∈ names, n ∉ effective s' r) ↔ kept ≠ [] ∨ ∀ n ∈ names, n ∉ r.core.names) ∧
        (Selection.ofFilters [] s'.analysis.activeFilters r).analyzers.map (·.1) =
          (effective s' r).filter r.contains) := by
  intro before kept
  refine ⟨remove_of_inactive, fun h => ⟨_, remove_of_active h, rfl, ?_⟩⟩
  have hkept : ∀ n ∈ names, n ∉ kept := fun n hn hmem => by
    simpa [hn] using (List.mem_filter.mp hmem).2
  have hafter : effective (withActive s kept) r = if kept = [] then r.core.names else kept :=
    effective_withActive s kept r
  refine ⟨?_, ?_, ?_, running_names _ r⟩
  · rw [hafter]
    by_cases hnil : kept = []
    · simp [hnil]
    · simp [hnil]
  · intro hnil
    rw [hafter, if_pos hnil]
  · rw [hafter]
    by_cases hnil : kept = []
    · simp [hnil]
    · simpa [hnil] using hkept

/-- **Whoever removes the last filter has it back.** Nothing but pods was to be looked at, and now
everything in the core group is, pods included. -/
theorem a_removed_filter_comes_back :
    let s : Settings := { analysis := { activeFilters := ["Pod"] } }
    let core := ["Deployment", "Node", "PersistentVolumeClaim", "Pod", "ReplicaSet", "Service"]
    let kept := (effective s Program.knownAnalyzers).filter (· ∉ ["Pod"])
    (∀ n ∈ ["Pod"], n ∈ effective s Program.knownAnalyzers) ∧ kept = [] ∧
      ∃ s', remove s ["Pod"] Program.knownAnalyzers = .ok s' ∧
        effective s' Program.knownAnalyzers = core ∧
        (Selection.ofFilters [] s'.analysis.activeFilters Program.knownAnalyzers).analyzers.map
          (·.1) = core := by
  intro s core kept
  have hcore : Program.knownAnalyzers.core.names = core := by decide +kernel
  refine ⟨by decide, by decide, withActive s [], by decide, hcore, ?_⟩
  exact hcore

/-! ## 4. Additions -/

/-- The names that are not active yet, each once, in the order in which they first come up. -/
def missing (active names : List String) : List String :=
  (names.filter (· ∉ active)).eraseDups

theorem missing_cons_of_mem (h : name ∈ active) :
    missing active (name :: names) = missing active names := by
  simp [missing, h]

/-- Once a name is added it is active, so it is not missing again. -/
theorem missing_cons_of_not_mem (h : name ∉ active) :
    missing active (name :: names) = name :: missing (active ++ [name]) names := by
  have hagain : (names.filter (· ∉ active)).filter (fun n => !n == name) =
      names.filter (· ∉ active ++ [name]) := by
    rw [List.filter_filter]
    refine List.filter_congr fun n _ => ?_
    by_cases hn : n = name
    · simp [hn]
    · simp [hn]
  rw [missing, List.filter_cons_of_pos (by simpa using h), List.eraseDups_cons, hagain, missing]

theorem mem_missing : name ∈ missing active names ↔ name ∈ names ∧ name ∉ active := by
  simp [missing, List.mem_eraseDups]

theorem nodup_missing (active names : List String) : (missing active names).Nodup := by
  induction names generalizing active with
  | nil => exact .nil
  | cons n rest ih =>
    by_cases hn : n ∈ active
    · rw [missing_cons_of_mem hn]
      exact ih active
    · rw [missing_cons_of_not_mem hn]
      refine List.nodup_cons.mpr ⟨fun hmem => ?_, ih _⟩
      exact (mem_missing.mp hmem).2 (List.mem_append_right _ (.head _))

theorem missing_eq_nil (h : ∀ n ∈ names, n ∈ active) : missing active names = [] :=
  List.eq_nil_iff_forall_not_mem.mpr fun n hn => (mem_missing.mp hn).2 (h n (mem_missing.mp hn).1)

/-- The list that an addition goes through grows by the missing names, and those are reported. -/
theorem appendMissing_eq (active names : List String) :
    appendMissing active names = (active ++ missing active names, missing active names) := by
  induction names generalizing active with
  | nil => simp [appendMissing, missing]
  | cons n rest ih =>
    unfold appendMissing
    by_cases hn : n ∈ active
    · rw [if_pos hn, ih, missing_cons_of_mem hn]
    · rw [if_neg hn, ih, missing_cons_of_not_mem hn, List.append_assoc, List.singleton_append]

theorem add_of_unknown (h : ∃ n ∈ names, r.contains n = false) :
    ∃ name, First (r.contains · = false) names name ∧ add s names r = .error (.unknown name) := by
  obtain ⟨name, hname⟩ := exists_find?_eq_some (q := (!r.contains ·)) (by simpa using h)
  refine ⟨name, by simpa using find?_eq_some_iff_first.mp hname, ?_⟩
  rw [add, hname]

theorem add_of_known (h : ∀ n ∈ names, r.contains n = true) :
    add s names r = .ok (withActive s (effective s r ++ missing (effective s r) names),
      missing (effective s r) names) := by
  have hnone : (names.find? fun name => !r.contains name) = none := by
    rw [List.find?_eq_none]
    intro n hn
    simp [h n hn]
  rw [add, hnone, appendMissing_eq]

/-- **An addition is exact, and it can be undone.** An addition of an unknown name is refused for the
first such name, and a refusal comes without settings. Any other addition reports the names that were
not in effect, each once and in the order in which they first come up; it puts them behind those that
were in effect, none of which is lost, and changes nothing else. The same addition once more reports
nothing and changes nothing. And if none of the names was in effect, their removal succeeds and
brings the filters in effect back to what they were. -/
theorem added_filters_are_exact (s : Settings) (r : Registry α) (names : List String) :
    let before := effective s r
    let added := missing before names
    ((∃ n ∈ names, r.contains n = false) →
      ∃ name, First (r.contains · = false) names name ∧ add s names r = .error (.unknown name)) ∧
    ((∀ n ∈ names, r.contains n = true) →
      ∃ s', add s names r = .ok (s', added) ∧
        s' = { s with analysis := { s.analysis with activeFilters := before ++ added } } ∧
        effective s' r = before ++ added ∧
        (added.Nodup ∧ ∀ n, n ∈ added ↔ n ∈ names ∧ n ∉ before) ∧
        (before.Nodup → (effective s' r).Nodup) ∧
        add s' names r = .ok (s', []) ∧
        ((∀ n ∈ names, n ∉ before) →
          ∃ s'', remove s' names r = .ok s'' ∧
            s'' = { s with analysis := { s.analysis with activeFilters := before } } ∧
            effective s'' r = before)) := by
  intro before added
  refine ⟨add_of_unknown, fun h => ⟨_, add_of_known h, rfl, ?_⟩⟩
  have hadded : ∀ n, n ∈ added ↔ n ∈ names ∧ n ∉ before := fun n => mem_missing
  have hafter : effective (withActive s (before ++ added)) r = before ++ added :=
    effective_withActive_append s added r
  have hall : ∀ n ∈ names, n ∈ effective (withActive s (before ++ added)) r := by
    intro n hn
    rw [hafter, List.mem_append, hadded]
    by_cases hbefore : n ∈ before
    · exact .inl hbefore
    · exact .inr ⟨hn, hbefore⟩
  refine ⟨hafter, ⟨nodup_missing before names, hadded⟩, fun hnodup => ?_, ?_, fun hnew => ?_⟩
  · rw [hafter]
    refine List.nodup_append'.mpr ⟨hnodup, nodup_missing before names, fun n hn hnew => ?_⟩
    exact ((hadded n).mp hnew).2 hn
  · rw [add_of_known h, missing_eq_nil hall, List.append_nil, hafter]
    rfl
  · have hback : (effective (withActive s (before ++ added)) r).filter (· ∉ names) = before := by
      have hkept : before.filter (· ∉ names) = before :=
        List.filter_eq_self.mpr fun n hn => decide_eq_true fun hmem => hnew n hmem hn
      have hdropped : added.filter (· ∉ names) = [] :=
        List.filter_eq_nil_iff.mpr fun n hn => by simpa using ((hadded n).mp hn).1
      rw [hafter, List.filter_append, hkept, hdropped, List.append_nil]
    have hremoved := remove_of_active hall
    rw [hback] at hremoved
    exact ⟨_, hremoved, rfl, effective_withActive_self s r⟩

end Filters
end ClusterTriage
