import ClusterTriage.Proofs.Cache.Lawful

/-!
# Caches that make nothing up

A lawful cache never fails. Most of what can be said about an explanation holds with less: a request
may fail, an entry may be lost, and a store may come to nothing, as long as what a cache hands out was
put in by somebody. `Cache.Truthful` asks for that and no more. A cache that is switched off is as
good as any other.
-/

namespace ClusterTriage

variable {σ : Type} {view : σ → String → Option String}

/-- Every entry that there is now was there before. -/
def NoNewEntries (before after : String → Option String) : Prop :=
  ∀ key payload, after key = some payload → before key = some payload

theorem NoNewEntries.refl (entries : String → Option String) : NoNewEntries entries entries := by
  intro key payload h
  exact h

/-- A cache that makes nothing up: entries only come from a store of theirs, and only entries are
loaded. -/
structure Cache.Truthful (c : Cache (StateM σ)) (view : σ → String → Option String) : Prop where
  contains (key : String) (w : σ) : NoNewEntries (view w) (view ((c.contains key).run w).2)
  load (key : String) (w : σ) : NoNewEntries (view w) (view ((c.load key).run w).2)
  loaded (key payload : String) (w : σ) (h : ((c.load key).run w).1 = .ok payload) :
    view w key = some payload
  store (key payload : String) (w : σ) (other payload' : String)
    (h : view ((c.store key payload).run w).2 other = some payload') :
    view w other = some payload' ∨ (other = key ∧ payload' = payload)

/-- **A cache in memory makes nothing up**, be it switched on or off. -/
theorem MemoryCache.truthful (τ : Type) (disabled : Bool) :
    (MemoryCache.cache (m := StateM (MemoryCache × τ)) disabled).Truthful fun w => w.1.find? where
  contains key w := .refl _
  load key w := .refl _
  loaded key payload w h := by
    have hload : ({ w.1 with disabled } : MemoryCache).load key = .ok payload := h
    rw [MemoryCache.load] at hload
    cases hfound : ({ w.1 with disabled } : MemoryCache).find? key with
    | none =>
      rw [hfound] at hload
      cases hload
    | some data =>
      rw [hfound] at hload
      cases hload
      exact hfound
  store key payload w other payload' h := by
    have hentry : (({ w.1 with disabled } : MemoryCache).insert key payload).find? other =
      some payload' := h
    cases disabled with
    | true => exact .inl hentry
    | false =>
      rw [MemoryCache.find?_insert _ rfl, Function.update_apply] at hentry
      by_cases hkey : other = key
      · rw [if_pos hkey] at hentry
        exact .inr ⟨hkey, (Option.some.inj hentry).symm⟩
      · rw [if_neg hkey] at hentry
        exact .inl hentry

end ClusterTriage
