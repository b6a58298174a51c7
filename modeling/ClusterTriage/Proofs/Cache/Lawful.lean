import ClusterTriage.Cache.Memory
import Mathlib.Logic.Function.Basic

/-!
# What a working cache is

A client sees a cache as five things in a structure, and nothing in that structure says that a
payload that was put in can be had again. `Cache.Lawful` says it: there is a `view` of the world as a
map from keys to payloads, and every request answers by that map. It is the only thing that proofs
about clients know of a cache, so they hold of every kind of cache at once.

The cache in memory is lawful (`MemoryCache.lawful`), and its view is plain lookup.
-/

namespace ClusterTriage

variable {σ : Type}

/-- A cache that is switched on and whose requests do not fail. Requests may change the world, but of
the map only what they are for. -/
structure Cache.Lawful (c : Cache (StateM σ)) (view : σ → String → Option String) : Prop where
  enabled : c.disabled = false
  /-- A key is reported exactly if the map has a payload for it. -/
  contains (key : String) (w : σ) :
    ∃ w', (c.contains key).run w = ((view w key).isSome, w') ∧ view w' = view w
  /-- The payload of a key that the map has is loaded. -/
  load (key payload : String) (w : σ) (h : view w key = some payload) :
    ∃ w', (c.load key).run w = (.ok payload, w') ∧ view w' = view w
  /-- Storing sets the payload of one key. -/
  store (key payload : String) (w : σ) :
    ∃ w', (c.store key payload).run w = (.ok (), w') ∧
      view w' = Function.update (view w) key (some payload)

/-! ## The cache in memory -/

namespace MemoryCache

/-- A cache in memory as one part of a world; whoever works with the other part leaves it alone. -/
instance besides (τ : Type) : MonadStateOf MemoryCache (StateM (MemoryCache × τ)) where
  get := do return (← getThe (MemoryCache × τ)).1
  set c := modify fun w => (c, w.2)
  modifyGet f := modifyGet fun w => ((f w.1).1, ((f w.1).2, w.2))

theorem find?_insert (c : MemoryCache) (h : c.disabled = false) (key payload : String) :
    (c.insert key payload).find? = Function.update c.find? key (some payload) := by
  funext other
  simp only [insert, h, find?, Bool.false_eq_true, if_false, Function.update_apply]
  by_cases hkey : other = key
  · simp [hkey]
  · rw [if_neg hkey, List.lookup_cons, beq_false_of_ne hkey]
    generalize c.entries = entries
    -- the entries that are dropped are none of `other`
    induction entries with
    | nil => rfl
    | cons e rest ih =>
      obtain ⟨k, v⟩ := e
      by_cases hk : k = key
      · simp [hk, List.lookup_cons, beq_false_of_ne hkey, ih]
      · simp only [List.filter_cons, bne_iff_ne, ne_eq, hk, not_false_eq_true, if_true,
          List.lookup_cons]
        cases other == k with
        | true => rfl
        | false => exact ih

/-- **A cache in memory that is switched on is a lawful one.** -/
theorem lawful (τ : Type) :
    (MemoryCache.cache (m := StateM (MemoryCache × τ)) false).Lawful fun w => w.1.find? where
  enabled := rfl
  contains key w := ⟨w, rfl, rfl⟩
  load key payload w h := by
    have hfound : ({ w.1 with disabled := false } : MemoryCache).find? key = some payload := h
    refine ⟨w, ?_, rfl⟩
    show (({ w.1 with disabled := false } : MemoryCache).load key, w) = _
    rw [load, hfound]
  store key payload w :=
    ⟨(({ w.1 with disabled := false } : MemoryCache).insert key payload, w.2), rfl,
      find?_insert { w.1 with disabled := false } rfl key payload⟩

end MemoryCache
end ClusterTriage
