import ClusterTriage.Proofs.Run.Ledger

/-!
# The gate of a run

What the permits are for, and why they never get in the way. The books of `Proofs/Run/Ledger.lean`
already say that no more permits are held than there are; what is left is the other half, that a run
always comes to its end:

> **There is always a next step, and there are only so many.** A run that is not finished can go on
> (`exists_step`), because a gate has at least one permit; and an analyzer has three steps ahead of
> it in line, two while it runs, one while its permit is still out (`Step.stepsLeft`).

The first sentence is where `clampConcurrency` matters: with no permit at all, a run with somebody in
line and nobody running would be stuck.
-/

namespace ClusterTriage

/-! ## 1. The number of permits -/

theorem clampConcurrency_pos (limit : Int) : 0 < clampConcurrency limit := by
  unfold clampConcurrency
  split
  · decide
  · simp only [maxConcurrency]
    omega

theorem clampConcurrency_le (limit : Int) : clampConcurrency limit ≤ maxConcurrency := by
  unfold clampConcurrency
  split
  · decide
  · exact Nat.min_le_right _ _

namespace Executor

variable {s t : State}

/-! ## 2. Progress -/

/-- How many steps a run still takes. -/
def State.stepsLeft (s : State) : Nat :=
  3 * s.queued.length + 2 * s.running.length + s.recorded.length

/-- **Every step takes the run one step nearer its end.** -/
theorem Step.stepsLeft (h : Step s t) : t.stepsLeft + 1 = s.stepsLeft := by
  cases h with
  | launch h' =>
    obtain ⟨job, rest, hq, -, rfl⟩ := State.launch?_eq_some.mp h'
    simp only [State.stepsLeft, hq, List.length_cons, List.length_append, List.length_nil]
    omega
  | record i h' =>
    obtain ⟨job, hj, rfl⟩ := State.record?_eq_some.mp h'
    obtain ⟨hi, -⟩ := List.getElem?_eq_some_iff.mp hj
    simp only [State.stepsLeft, List.length_eraseIdx_of_lt hi, List.length_append,
      List.length_singleton]
    omega
  | release i h' =>
    obtain ⟨hi, rfl⟩ := State.release?_eq_some.mp h'
    simp only [State.stepsLeft, List.length_eraseIdx_of_lt hi]
    omega

theorem Step.limit (h : Step s t) : t.limit = s.limit := by
  cases h with
  | launch h' => obtain ⟨_, _, _, _, rfl⟩ := State.launch?_eq_some.mp h'; rfl
  | record i h' => obtain ⟨_, _, rfl⟩ := State.record?_eq_some.mp h'; rfl
  | release i h' => obtain ⟨_, rfl⟩ := State.release?_eq_some.mp h'; rfl

/-- A permit comes free only by release, and only somebody recorded is released. The store does not
change then: what it gets of an analyzer, it already has. -/
theorem Step.frees (h : Step s t) (hfree : t.held < s.held) :
    ∃ job, s.recorded.Perm (job :: t.recorded) ∧ t.store = s.store := by
  cases h with
  | launch h' =>
    obtain ⟨job, rest, -, -, rfl⟩ := State.launch?_eq_some.mp h'
    simp only [State.held, List.length_append, List.length_singleton] at hfree
    omega
  | record i h' =>
    obtain ⟨job, hj, rfl⟩ := State.record?_eq_some.mp h'
    obtain ⟨hi, -⟩ := List.getElem?_eq_some_iff.mp hj
    simp only [State.held, List.length_append, List.length_singleton,
      List.length_eraseIdx_of_lt hi] at hfree
    omega
  | release i h' =>
    obtain ⟨hi, rfl⟩ := State.release?_eq_some.mp h'
    exact ⟨_, perm_cons_eraseIdx (List.getElem?_eq_getElem hi), rfl⟩

/-- **A run that is not finished can go on.** Whoever holds a permit can be recorded or can give it
back; if nobody does, the gate is open to the next in line. -/
theorem exists_step (hl : 0 < s.limit) (hf : s.finished = false) : ∃ t, Step s t := by
  cases hr : s.running with
  | cons job rest => exact ⟨_, .record 0 (State.record?_eq_some.mpr ⟨job, by simp [hr], rfl⟩)⟩
  | nil =>
    cases hd : s.recorded with
    | cons job rest => exact ⟨_, .release 0 (State.release?_eq_some.mpr ⟨by simp [hd], rfl⟩)⟩
    | nil =>
      cases hq : s.queued with
      | cons job rest =>
        have hg : s.held < s.limit := by simpa [State.held, hr, hd] using hl
        exact ⟨_, .launch (State.launch?_eq_some.mpr ⟨job, rest, hq, hg, rfl⟩)⟩
      | nil => simp [State.finished, hq, hr, hd] at hf

theorem stepsLeft_eq_zero_iff : s.stepsLeft = 0 ↔ s.finished = true := by
  rw [State.finished_iff, State.stepsLeft]
  simp only [← List.length_eq_zero_iff]
  omega

/-- A finished run is over: a step would have to come after the last one. -/
theorem finished_iff_stuck (hl : 0 < s.limit) : s.finished = true ↔ ¬ ∃ t, Step s t := by
  constructor
  · rintro hf ⟨t, ht⟩
    have hleft := ht.stepsLeft
    rw [stepsLeft_eq_zero_iff.mpr hf] at hleft
    omega
  · intro hstuck
    by_contra hf
    exact hstuck (exists_step hl (by simpa using hf))

/-- Wherever a run stands, it can be brought to its end. -/
theorem exists_finished (hl : 0 < s.limit) : ∃ t, Steps s t ∧ t.finished = true := by
  induction hn : s.stepsLeft generalizing s with
  | zero => exact ⟨s, .refl s, stepsLeft_eq_zero_iff.mp hn⟩
  | succ n ih =>
    have hf : s.finished = false := by
      rw [← Bool.not_eq_true, ← stepsLeft_eq_zero_iff]
      omega
    obtain ⟨t, ht⟩ := exists_step hl hf
    have hleft := ht.stepsLeft
    obtain ⟨u, hu, hfu⟩ := ih (s := t) (by rw [ht.limit]; exact hl) (by omega)
    exact ⟨u, .head ht hu, hfu⟩

/-! ## 3. Full use -/

/-- While permits are free, the line moves up. -/
theorem steps_launch (k : Nat) (hk : k ≤ s.queued.length) (hg : s.held + k ≤ s.limit) :
    Steps s { s with queued := s.queued.drop k, running := s.running ++ s.queued.take k } := by
  induction k generalizing s with
  | zero => simpa using Steps.refl s
  | succ k ih =>
    cases hq : s.queued with
    | nil => simp [hq] at hk
    | cons job rest =>
      have hstep : Step s { s with queued := rest, running := s.running ++ [job] } :=
        .launch (State.launch?_eq_some.mpr ⟨job, rest, hq, by omega, rfl⟩)
      refine .head hstep ?_
      have hrest := ih (s := { s with queued := rest, running := s.running ++ [job] })
        (by simpa [hq] using hk)
        (by simp only [State.held, List.length_append, List.length_singleton] at hg ⊢; omega)
      simpa using hrest

/-! ## 4. The gate -/

theorem Ledger.logged_perm_iff {start : State} {launched logged released : List Job}
    (h : Ledger start s launched logged released) :
    logged.Perm start.queued ↔ s.queued = [] ∧ s.running = [] := by
  have hlen : start.queued.length = (s.running ++ logged).length + s.queued.length := by
    rw [h.line, List.length_append, h.runs.length_eq]
  rw [List.length_append] at hlen
  constructor
  · intro hp
    have hp' := hp.length_eq
    exact ⟨List.length_eq_zero_iff.mp (by omega), List.length_eq_zero_iff.mp (by omega)⟩
  · rintro ⟨hq, hr⟩
    have hruns := h.runs
    rw [hr, List.nil_append] at hruns
    rw [h.line, hq, List.append_nil]
    exact hruns.symm

/-- **The gate holds, and it never holds a run up.** There is at least one permit and there are at
most a hundred. In every state that a run can reach, no more analyzers are between launch and release
than there are permits; they were launched in the order of the line; whoever has given a permit back
has its outcome in the store; a run that is not over can go on, and every step brings the end nearer,
which is where all outcomes are recorded and all permits are back. And the permits are of use: as many
analyzers as there are permits, or all of them if they are fewer, can run at once. -/
theorem gate_bounds_and_never_blocks (limit : Int) (timed : Bool) (jobs : List Job)
    (store : Store) :
    1 ≤ clampConcurrency limit ∧ clampConcurrency limit ≤ 100 ∧
    (∀ s, Steps (State.initial limit timed jobs store) s →
      s.running.length + s.recorded.length ≤ clampConcurrency limit ∧
      (∃ launched logged released : List Job,
        jobs = launched ++ s.queued ∧
        launched.Perm (s.running ++ (s.recorded ++ released)) ∧
        (s.recorded ++ released).Perm logged ∧
        s.store = logged.foldl (Store.recordJob timed) store ∧
        (logged.Perm jobs ↔ s.queued = [] ∧ s.running = []) ∧
        (s.finished = true ↔ logged.Perm jobs ∧ s.recorded = [])) ∧
      (∀ t, Step s t → t.held < s.held →
        ∃ job, s.recorded.Perm (job :: t.recorded) ∧ t.store = s.store) ∧
      (s.finished = false → ∃ t, Step s t) ∧
      (∀ t, Step s t → t.stepsLeft < s.stepsLeft) ∧
      (s.finished = true ↔ ¬ ∃ t, Step s t) ∧
      ∃ t, Steps s t ∧ t.finished = true) ∧
    ∃ s, Steps (State.initial limit timed jobs store) s ∧
      s.running.length = min jobs.length (clampConcurrency limit) := by
  refine ⟨clampConcurrency_pos limit, clampConcurrency_le limit, fun s hs => ?_, ?_⟩
  · obtain ⟨launched, logged, released, h⟩ := hs.ledger (State.fresh_initial limit timed jobs store)
    have hlimit : s.limit = clampConcurrency limit := h.limit
    have hpos : 0 < s.limit := by rw [hlimit]; exact clampConcurrency_pos limit
    have hgate : s.running.length + s.recorded.length ≤ clampConcurrency limit := by
      rw [← hlimit]
      exact h.gate
    have hlogged : logged.Perm jobs ↔ s.queued = [] ∧ s.running = [] := h.logged_perm_iff
    have hfinished : s.finished = true ↔ logged.Perm jobs ∧ s.recorded = [] := by
      rw [State.finished_iff, hlogged, and_assoc]
    -- the permits that are out are those of the running and of the recorded but not released
    have hpermits : launched.Perm (s.running ++ (s.recorded ++ released)) :=
      h.runs.trans (h.permits.append_left s.running)
    refine ⟨hgate, ⟨launched, logged, released, h.line, hpermits, h.permits.symm, h.store, hlogged,
      hfinished⟩, fun t ht => ht.frees, exists_step hpos, ?_, finished_iff_stuck hpos,
      exists_finished hpos⟩
    intro t ht
    have hleft := ht.stepsLeft
    omega
  · have hroom : (State.initial limit timed jobs store).held +
        min jobs.length (clampConcurrency limit) ≤ clampConcurrency limit := by
      show 0 + 0 + min jobs.length (clampConcurrency limit) ≤ clampConcurrency limit
      omega
    have hrun := steps_launch (min jobs.length (clampConcurrency limit)) (Nat.min_le_left _ _) hroom
    refine ⟨_, hrun, ?_⟩
    simp [State.initial]

end Executor
end ClusterTriage
