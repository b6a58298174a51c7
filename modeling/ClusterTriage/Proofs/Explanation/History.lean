import ClusterTriage.Proofs.Explanation.Observed
import ClusterTriage.Proofs.Explanation.Payload
import Mathlib.Logic.Function.Basic

/-!
# What a list of calls leaves in a cache

A list of calls is all one needs to know to say what became of a cache: every success was kept, every
refusal was not. And it takes one condition on such a list to have everything that a memory should
guarantee. The condition looks at each call only at its own time:

> **A call is made only for a key under which nothing usable is kept** (`Fresh`).

From it follows, by induction over the calls, that a success is the last call for its key, that its
payload stays, and that a key with a usable payload is never called for (`Fresh.history`).
-/

namespace ClusterTriage
namespace Explainer

variable {entries : String → Option String} {key answer : String} {c : Call} {calls : List Call}

/-! ## 1. One call -/

/-- The entries after a call: a success is kept, a refusal is not. -/
def keepCall (entries : String → Option String) : Call → String → Option String
  | (key, .ok answer) =>
    Function.update entries key (some (Encoding.Base64.encodeString (Text.Utf8.encode answer)))
  | (_, .error _) => entries

/-- What a call puts into the cache: the answer as it came, in base64. -/
def payloadOf? : Call → Option (String × String)
  | (key, .ok answer) => some (key, Encoding.Base64.encodeString (Text.Utf8.encode answer))
  | (_, .error _) => none

theorem keepCall_of_ne (h : ∀ answer, c ≠ (key, .ok answer)) : keepCall entries c key = entries key := by
  obtain ⟨other, reply⟩ := c
  cases reply with
  | error cause => rfl
  | ok answer =>
    have hne : key ≠ other := by
      rintro rfl
      exact h answer rfl
    exact Function.update_of_ne hne _ _

theorem keepCall_ok : keepCall entries (key, .ok answer) key = some (encodePayload answer) :=
  Function.update_self _ _ _

theorem usable_keepCall_ok : usable (keepCall entries (key, .ok answer)) key = some answer := by
  rw [usable, keepCall_ok]
  exact decodePayload?_encodePayload answer

/-- A call for a key that nothing was known about makes its own answer known and nothing else. -/
theorem usable_keepCall (h : usable entries c.1 = none) :
    usable (keepCall entries c) key = some answer ↔
      usable entries key = some answer ∨ c = (key, .ok answer) := by
  by_cases hc : ∃ reply, c = (key, .ok reply)
  · obtain ⟨reply, rfl⟩ := hc
    rw [usable_keepCall_ok, h]
    simp
  · push Not at hc
    rw [usable, keepCall_of_ne hc]
    simp [usable, hc answer]

/-! ## 2. Calls one after another -/

abbrev keepCalls (entries : String → Option String) (calls : List Call) : String → Option String :=
  calls.foldl keepCall entries

/-- Calls that were needed: under the key of each, nothing usable was kept when it was made. -/
inductive Fresh : (String → Option String) → List Call → Prop where
  | nil (entries : String → Option String) : Fresh entries []
  | call {entries : String → Option String} {c : Call} {rest : List Call}
      (needed : usable entries c.1 = none) (next : Fresh (keepCall entries c) rest) :
      Fresh entries (c :: rest)

theorem Fresh.append {more : List Call} (h : Fresh entries calls)
    (hmore : Fresh (keepCalls entries calls) more) : Fresh entries (calls ++ more) := by
  induction h with
  | nil => exact hmore
  | call needed next ih => exact .call needed (ih hmore)

/-- An entry changes only by a success for its key. -/
theorem keepCalls_of_not_mem (h : ∀ answer, (key, .ok answer) ∉ calls) :
    keepCalls entries calls key = entries key := by
  induction calls generalizing entries with
  | nil => rfl
  | cons c rest ih =>
    rw [keepCalls, List.foldl_cons, ← keepCalls, ih fun answer hmem => h answer (.tail c hmem)]
    exact keepCall_of_ne fun answer hc => h answer (hc ▸ .head rest)

/-- What is known in the end was known before or was answered on the way. -/
theorem Fresh.usable_keepCalls (h : Fresh entries calls) :
    usable (keepCalls entries calls) key = some answer ↔
      usable entries key = some answer ∨ (key, .ok answer) ∈ calls := by
  induction h with
  | nil => simp
  | call needed next ih =>
    rw [keepCalls, List.foldl_cons, ← keepCalls, ih, usable_keepCall needed, List.mem_cons,
      or_assoc, eq_comm (a := (key, Except.ok answer))]

theorem Fresh.usable_mono (h : Fresh entries calls) (hknown : usable entries key = some answer) :
    usable (keepCalls entries calls) key = some answer :=
  h.usable_keepCalls.mpr (.inl hknown)

/-- A key with a usable payload is never called for. -/
theorem Fresh.unknown (h : Fresh entries calls) (hc : c ∈ calls) : usable entries c.1 = none := by
  induction h with
  | nil => exact absurd hc List.not_mem_nil
  | call needed next ih =>
    rcases List.mem_cons.mp hc with rfl | hc
    · exact needed
    · cases hknown : usable _ c.1 with
      | none => rfl
      | some answer =>
        -- what is known would still be known after the first call
        have hlater := (usable_keepCall needed).mpr (.inl hknown)
        rw [ih hc] at hlater
        exact absurd hlater (by simp)

/-- Once a key is answered, no call is for it. -/
theorem Fresh.ne_of_answered (h : Fresh (keepCall entries (key, .ok answer)) calls) (hc : c ∈ calls) :
    c.1 ≠ key := by
  rintro rfl
  have hunknown := h.unknown hc
  rw [usable_keepCall_ok] at hunknown
  exact absurd hunknown (by simp)

/-! ## 3. The history of a cache -/

/-- What a memory should guarantee: the entries before and after some calls, and what was stored. -/
structure History (before : String → Option String) (calls : List Call)
    (stored : List (String × String)) (after : String → Option String) : Prop where
  /-- A key with a usable payload is never called for. -/
  fresh : ∀ c ∈ calls, usable before c.1 = none
  /-- At most one call for a key succeeds. -/
  once (key : String) : (calls.filter fun c => c.1 == key && c.2.isOk).length ≤ 1
  /-- Once one has, no later call is for that key. -/
  last : calls.Pairwise fun c later => c.2.isOk = true → later.1 ≠ c.1
  /-- Every success is stored and nothing else is. -/
  stored_eq : stored = calls.filterMap payloadOf?
  /-- No entry is stored twice. -/
  stored_once : (stored.map Prod.fst).Nodup
  /-- A success is what is kept in the end. -/
  kept (key answer : String) (h : (key, .ok answer) ∈ calls) :
    after key = some (Encoding.Base64.encodeString (Text.Utf8.encode answer))
  /-- The entry of any other key stays as it was, damaged or not. -/
  untouched (key : String) (h : ∀ answer, (key, .ok answer) ∉ calls) : after key = before key
  /-- What is known in the end was known before or was answered on the way. -/
  known (key answer : String) :
    usable after key = some answer ↔
      usable before key = some answer ∨ (key, .ok answer) ∈ calls

theorem Fresh.last (h : Fresh entries calls) :
    calls.Pairwise fun c later => c.2.isOk = true → later.1 ≠ c.1 := by
  induction h with
  | nil => exact .nil
  | @call entries c rest needed next ih =>
    obtain ⟨key, reply⟩ := c
    refine .cons (fun later hlater hok => ?_) ih
    cases reply with
    | error cause => exact absurd hok (by simp [Except.isOk, Except.toBool])
    | ok answer => exact next.ne_of_answered hlater

theorem Fresh.kept (h : Fresh entries calls) (hc : (key, .ok answer) ∈ calls) :
    keepCalls entries calls key = some (encodePayload answer) := by
  induction h with
  | nil => exact absurd hc List.not_mem_nil
  | @call entries c rest needed next ih =>
    rcases List.mem_cons.mp hc with rfl | hc
    · -- the first call was the success, so the rest leaves the entry alone
      have hrest : ∀ other, (key, Except.ok other) ∉ rest :=
        fun other hmem => next.ne_of_answered hmem rfl
      rw [keepCalls, List.foldl_cons, ← keepCalls, keepCalls_of_not_mem hrest, keepCall_ok]
    · exact ih hc

/-- Of calls that are each the last for their key once they succeed, at most one succeeds. -/
theorem filter_length_le_one
    (h : calls.Pairwise fun c later => c.2.isOk = true → later.1 ≠ c.1) (key : String) :
    (calls.filter fun c => c.1 == key && c.2.isOk).length ≤ 1 := by
  induction h with
  | nil => exact Nat.zero_le 1
  | @cons c rest hlast _ ih =>
    by_cases hc : c.1 = key ∧ c.2.isOk = true
    · have hnone : rest.filter (fun c => c.1 == key && c.2.isOk) = [] := by
        refine List.filter_eq_nil_iff.mpr fun later hlater hp => ?_
        rw [Bool.and_eq_true, beq_iff_eq] at hp
        exact hlast later hlater hc.2 (hp.1.trans hc.1.symm)
      rw [List.filter_cons, hnone]
      split <;> simp
    · have hp : (c.1 == key && c.2.isOk) = false := by
        rw [Bool.and_eq_false_iff, beq_eq_false_iff_ne, ← Bool.not_eq_true]
        exact Decidable.not_and_iff_or_not.mp hc
      rw [List.filter_cons, hp]
      exact ih

theorem stored_nodup
    (h : calls.Pairwise fun c later => c.2.isOk = true → later.1 ≠ c.1) :
    ((calls.filterMap payloadOf?).map Prod.fst).Nodup := by
  rw [List.Nodup, List.pairwise_map, List.pairwise_filterMap]
  refine h.imp fun {c later} hlast p hp p' hp' => ?_
  obtain ⟨key, reply⟩ := c
  obtain ⟨key', reply'⟩ := later
  cases reply with
  | error cause => exact absurd hp (by simp [payloadOf?])
  | ok answer =>
    cases reply' with
    | error cause => exact absurd hp' (by simp [payloadOf?])
    | ok answer' =>
      obtain rfl := Option.some.inj hp
      obtain rfl := Option.some.inj hp'
      exact (hlast rfl).symm

/-- **Calls that were needed have the history of a good memory.** -/
theorem Fresh.history (h : Fresh entries calls) :
    History entries calls (calls.filterMap payloadOf?) (keepCalls entries calls) where
  fresh _ hc := h.unknown hc
  once := filter_length_le_one h.last
  last := h.last
  stored_eq := rfl
  stored_once := stored_nodup h.last
  kept _ _ hc := h.kept hc
  untouched _ hc := keepCalls_of_not_mem hc
  known _ _ := h.usable_keepCalls

end Explainer
end ClusterTriage
