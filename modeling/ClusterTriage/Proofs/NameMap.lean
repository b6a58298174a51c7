import ClusterTriage.NameMap
import Mathlib.Data.String.Basic

/-!
# Names and what they are bound to

A `NameMap` is a list that insertion keeps in order, and everything else about it is read in one of
two ways: as the function `find?`, or as the list of its names. Both readings have to agree, since a
selection of analyzers is made by one of them and the list of filters is printed by the other.

> **A sorted map is its function**: an entry stands in the list exactly if it is what the name is
> bound to (`Sorted.mem_entries`).

Lookup after an insertion needs no order at all (`find?_insert`), so order is a hypothesis only where
a name could otherwise stand in the list twice.
-/

namespace ClusterTriage
namespace NameMap

variable {α β : Type} {name other : String} {a : α} {m : NameMap α}

/-! ## 1. What a name is bound to -/

theorem lookup_insertEntry (name other : String) (a : α) (l : List (String × α)) :
    (insertEntry name a l).lookup other = if other = name then some a else l.lookup other := by
  induction l with
  | nil =>
    by_cases h : other = name
    · simp [insertEntry, h]
    · simp [insertEntry, h, List.lookup_cons, beq_false_of_ne h]
  | cons e rest ih =>
    obtain ⟨n, b⟩ := e
    unfold insertEntry
    split
    · by_cases h : other = name
      · simp [h]
      · simp [h, List.lookup_cons, beq_false_of_ne h]
    · split
      case isTrue h =>
        subst h
        by_cases h : other = name
        · simp [h]
        · simp [h, List.lookup_cons, beq_false_of_ne h]
      case isFalse hn =>
        rw [List.lookup_cons, ih, List.lookup_cons]
        by_cases h : other = name
        · subst h
          rw [beq_false_of_ne hn, if_pos rfl]
        · simp [h]

theorem find?_insert (m : NameMap α) (name other : String) (a : α) :
    (m.insert name a).find? other = if other = name then some a else m.find? other :=
  lookup_insertEntry name other a m.entries

theorem mem_names_iff : name ∈ m.names ↔ (m.find? name).isSome = true := by
  unfold names find?
  rw [List.mem_map, List.lookup_isSome_iff]
  simp only [beq_iff_eq, eq_comm (a := name)]

theorem find?_map (f : α → β) (m : NameMap α) (name : String) : (m.map f).find? name = (m.find? name).map f := by
  obtain ⟨entries⟩ := m
  unfold NameMap.map find?
  induction entries with
  | nil => rfl
  | cons e rest ih =>
    rw [List.map_cons, List.lookup_cons, List.lookup_cons]
    cases name == e.1 with
    | true => rfl
    | false => exact ih

/-! ## 2. Names in order -/

/-- Each name comes before all that stand after it. -/
def Sorted (m : NameMap α) : Prop := m.names.Pairwise (· < ·)

theorem sorted_empty : (empty : NameMap α).Sorted := List.Pairwise.nil

theorem Sorted.map (h : m.Sorted) (f : α → β) : (m.map f).Sorted := by
  unfold Sorted names NameMap.map
  rw [List.map_map]
  exact h

theorem Sorted.nodup (h : m.Sorted) : m.names.Nodup := h.imp ne_of_lt

theorem mem_names_insertEntry {l : List (String × α)}
    (h : other ∈ (insertEntry name a l).map (·.1)) : other = name ∨ other ∈ l.map (·.1) := by
  induction l with
  | nil => simpa [insertEntry] using h
  | cons e rest ih =>
    unfold insertEntry at h
    split at h
    · simpa using h
    · split at h
      · rcases List.mem_cons.mp h with h | h
        · exact .inl h
        · exact .inr (List.mem_cons_of_mem _ h)
      · rcases List.mem_cons.mp h with h | h
        · exact .inr (h ▸ List.mem_cons_self)
        · rcases ih h with h | h
          · exact .inl h
          · exact .inr (List.mem_cons_of_mem _ h)

theorem pairwise_insertEntry {l : List (String × α)} (h : (l.map (·.1)).Pairwise (· < ·)) :
    ((insertEntry name a l).map (·.1)).Pairwise (· < ·) := by
  induction l with
  | nil => exact List.pairwise_singleton _ _
  | cons e rest ih =>
    obtain ⟨n, b⟩ := e
    obtain ⟨hfirst, hrest⟩ := List.pairwise_cons.mp h
    unfold insertEntry
    split
    case isTrue hlt =>
      refine List.pairwise_cons.mpr ⟨fun x hx => ?_, h⟩
      rcases List.mem_cons.mp hx with rfl | hx
      · exact hlt
      · exact lt_trans hlt (hfirst x hx)
    case isFalse hlt =>
      split
      case isTrue heq =>
        subst heq
        exact h
      case isFalse hne =>
        refine List.pairwise_cons.mpr ⟨fun x hx => ?_, ih hrest⟩
        rcases mem_names_insertEntry hx with rfl | hx
        · exact lt_of_le_of_ne (not_lt.mp hlt) (Ne.symm hne)
        · exact hfirst x hx

theorem Sorted.insert (h : m.Sorted) (name : String) (a : α) : (m.insert name a).Sorted :=
  pairwise_insertEntry h

/-- **In a sorted map the entries are the bindings.** Without order a second entry of a name could
stand behind the one that `find?` answers with. -/
theorem Sorted.mem_entries (h : m.Sorted) : (name, a) ∈ m.entries ↔ m.find? name = some a := by
  obtain ⟨entries⟩ := m
  unfold Sorted names at h
  unfold find?
  induction entries with
  | nil => simp
  | cons e rest ih =>
    obtain ⟨n, b⟩ := e
    obtain ⟨hfirst, hrest⟩ := List.pairwise_cons.mp h
    rw [List.mem_cons, List.lookup_cons]
    by_cases hn : name = n
    · subst hn
      have hlater : (name, a) ∉ rest := fun hmem =>
        absurd (hfirst name (List.mem_map_of_mem hmem)) (lt_irrefl name)
      simp [hlater, eq_comm]
    · have hhead : ¬ (name, a) = (n, b) := fun h => hn (Prod.mk.inj h).1
      rw [beq_false_of_ne hn]
      simp only [hhead, false_or]
      exact ih hrest

/-! ## 3. Maps from lists -/

theorem sorted_ofList (l : List (String × α)) : (ofList l).Sorted := by
  have hfold : ∀ m : NameMap α, m.Sorted →
      (l.foldl (fun (m : NameMap α) e => m.insert e.1 e.2) m).Sorted := by
    induction l with
    | nil => exact fun m h => h
    | cons e l ih => exact fun m h => ih _ (h.insert e.1 e.2)
  exact hfold empty sorted_empty

theorem insertEntry_of_lt {l : List (String × α)} (h : ∀ e ∈ l, e.1 < name) :
    insertEntry name a l = l ++ [(name, a)] := by
  induction l with
  | nil => rfl
  | cons e l ih =>
    obtain ⟨n, b⟩ := e
    have hlt : n < name := h _ List.mem_cons_self
    rw [insertEntry, if_neg (not_lt_of_gt hlt), if_neg (ne_of_gt hlt),
      ih fun e he => h e (List.mem_cons_of_mem _ he), List.cons_append]

/-- The entries of a sorted map make that map again. -/
theorem Sorted.ofList_entries (h : m.Sorted) : ofList m.entries = m := by
  have hfold : ∀ l₁ l₂ : List (String × α), ((l₁ ++ l₂).map (·.1)).Pairwise (· < ·) →
      l₂.foldl (fun (m : NameMap α) e => m.insert e.1 e.2) ⟨l₁⟩ = ⟨l₁ ++ l₂⟩ := by
    intro l₁ l₂
    induction l₂ generalizing l₁ with
    | nil => simp
    | cons e l₂ ih =>
      intro hpair
      have hlt : ∀ e' ∈ l₁, e'.1 < e.1 := fun e' he' => by
        rw [List.map_append] at hpair
        exact (List.pairwise_append.mp hpair).2.2 _ (List.mem_map_of_mem he') _ List.mem_cons_self
      rw [List.foldl_cons, NameMap.insert, insertEntry_of_lt hlt, ih _ (by simpa using hpair),
        List.append_assoc, List.singleton_append]
  exact hfold [] m.entries h

end NameMap
end ClusterTriage
