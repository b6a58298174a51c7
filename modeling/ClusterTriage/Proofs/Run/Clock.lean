import ClusterTriage.Proofs.Run.Gate
import ClusterTriage.Run.Timeline

/-!
# A run by the clock is one of the runs

`Executor.timeline` decides every question that `Step` leaves open, by the clock. So that everything
proved of all interleavings also holds of the run that is actually carried out, two facts are needed
and are proved here:

> **The clock only takes steps, and it takes all of them.** Every event of a timeline is a sequence
> of steps (`Timeline.advance?_steps`), and the timeline ends in a finished state
> (`timeline_finished`).

The second one has to show that the bound on the number of events in `timeline` is never reached too
early. An analyzer has two events ahead of it in line and one while it runs; a timeline gives each of
them two.
-/

namespace ClusterTriage
namespace Executor

theorem Steps.trans {s t u : State} (h : Steps s t) (h' : Steps t u) : Steps s u := by
  induction h with
  | refl => exact h'
  | head first _ ih => exact .head first (ih h')

namespace Timeline

variable {t u : Timeline}

/-! ## 1. One event -/

theorem earliest_lt {ends : List Nat} (h : ends ≠ []) : earliest ends < ends.length := by
  induction ends with
  | nil => exact absurd rfl h
  | cons a rest ih =>
    cases rest with
    | nil => simp [earliest]
    | cons b rest =>
      have hrest := ih (by simp)
      simp only [earliest]
      split
      · simp
      · simpa using hrest

/-- Between events nobody holds a permit without running, and every running analyzer has an end. -/
structure Settled (t : Timeline) : Prop where
  recorded : t.state.recorded = []
  ends : t.ends.length = t.state.running.length

/-- How many events a timeline still has. -/
def eventsLeft (t : Timeline) : Nat := 2 * t.state.queued.length + t.state.running.length

theorem finish?_eq_some (h : t.Settled) {i : Nat} (hi : i < t.state.running.length) :
    ∃ u, t.finish? i = some u ∧ u.Settled ∧ Steps t.state u.state ∧
      u.eventsLeft + 1 = t.eventsLeft ∧ u.state.limit = t.state.limit := by
  have hj : t.state.running[i]? = some t.state.running[i] := List.getElem?_eq_getElem hi
  have hrec := State.record?_eq_some.mpr ⟨_, hj, rfl⟩
  refine ⟨{ t with
    state := { t.state with
      running := t.state.running.eraseIdx i
      store := t.state.store.recordJob t.state.timed t.state.running[i] }
    now := max t.now (t.ends.getD i t.now)
    ends := t.ends.eraseIdx i }, ?_, ⟨?_, ?_⟩, ?_, ?_, rfl⟩
  · simp [finish?, hrec, State.release?, h.recorded]
  · exact h.recorded
  · simp [List.length_eraseIdx_of_lt, hi, h.ends]
  · refine .head (.record i hrec) (.head (.release 0 ?_) (.refl _))
    simp [State.release?, h.recorded]
  · simp only [eventsLeft, List.length_eraseIdx_of_lt hi]
    omega

theorem launch?_eq_some (h : t.Settled) (hq : t.state.queued ≠ [])
    (hg : t.state.held < t.state.limit) :
    ∃ u, t.launch? = some u ∧ u.Settled ∧ Steps t.state u.state ∧
      u.eventsLeft < t.eventsLeft ∧ u.state.limit = t.state.limit := by
  obtain ⟨job, rest, hjob⟩ := List.exists_cons_of_ne_nil hq
  have hlaunch := State.launch?_eq_some.mpr ⟨job, rest, hjob, hg, rfl⟩
  have hstep : Step t.state { t.state with queued := rest, running := t.state.running ++ [job] } :=
    .launch hlaunch
  by_cases hd : job.duration = 0
  · -- it ends at once: the launch and its end are one event
    obtain ⟨u, hu, hset, hsteps, hleft, hlimit⟩ := finish?_eq_some
      (t := { t with
        state := { t.state with queued := rest, running := t.state.running ++ [job] }
        ends := t.ends ++ [t.now + job.duration]
        started := t.started ++ [job.name]
        peak := max t.peak (t.state.running ++ [job]).length })
      ⟨h.recorded, by simp [h.ends]⟩ (i := (t.state.running ++ [job]).length - 1) (by simp)
    refine ⟨u, ?_, hset, .head hstep hsteps, ?_, hlimit⟩
    · simp only [launch?, hjob, List.head?_cons, hlaunch, Option.bind_eq_bind, Option.bind_some, hd,
        if_true]
      simpa [hd] using hu
    · simp only [eventsLeft, hjob, List.length_append, List.length_cons, List.length_nil] at hleft ⊢
      omega
  · refine ⟨{ t with
      state := { t.state with queued := rest, running := t.state.running ++ [job] }
      ends := t.ends ++ [t.now + job.duration]
      started := t.started ++ [job.name]
      peak := max t.peak (t.state.running ++ [job]).length },
      ?_, ⟨?_, ?_⟩, .head hstep (.refl _), ?_, ?_⟩
    · simp only [launch?, hjob, List.head?_cons, hlaunch, Option.bind_eq_bind, Option.bind_some, hd,
        if_false]
    · exact h.recorded
    · simp [h.ends]
    · simp only [eventsLeft, hjob, List.length_append, List.length_cons, List.length_nil]
      omega
    · rfl

theorem launch?_eq_none (h : t.state.queued = [] ∨ t.state.limit ≤ t.state.held) :
    t.launch? = none := by
  cases hq : t.state.queued with
  | nil => simp [launch?, hq]
  | cons job rest =>
    have hg : ¬ t.state.held < t.state.limit := by
      rcases h with h | h
      · simp [hq] at h
      · omega
    simp [launch?, State.launch?, hq, hg]

/-- **An event is a sequence of steps**, and as long as the run is not finished there is one. -/
theorem advance?_steps (h : t.Settled) (hl : 0 < t.state.limit) (hleft : 0 < t.eventsLeft) :
    ∃ u, t.advance? = some u ∧ u.Settled ∧ Steps t.state u.state ∧
      u.eventsLeft < t.eventsLeft ∧ u.state.limit = t.state.limit := by
  by_cases hopen : t.state.queued ≠ [] ∧ t.state.held < t.state.limit
  · obtain ⟨u, hu, hrest⟩ := launch?_eq_some h hopen.1 hopen.2
    exact ⟨u, by simp [advance?, hu], hrest⟩
  · -- nobody can be launched, so somebody runs
    have hnone : t.launch? = none := launch?_eq_none (by
      by_cases hq : t.state.queued = []
      · exact .inl hq
      · exact .inr (Nat.le_of_not_lt fun hg => hopen ⟨hq, hg⟩))
    have hrun : 0 < t.state.running.length := by
      by_contra hzero
      have hheld : t.state.held = 0 := by
        simp only [State.held, h.recorded, List.length_nil]
        omega
      refine hopen ⟨fun hq => ?_, by omega⟩
      simp only [eventsLeft, hq, List.length_nil] at hleft
      omega
    have hearly : earliest t.ends < t.state.running.length := by
      rw [← h.ends]
      exact earliest_lt (List.ne_nil_of_length_pos (by rw [h.ends]; exact hrun))
    obtain ⟨u, hu, hset, hsteps, hdec, hlimit⟩ := finish?_eq_some h hearly
    exact ⟨u, by simp [advance?, hnone, hu], hset, hsteps, by omega, hlimit⟩

/-! ## 2. All events -/

theorem finished_iff_eventsLeft (h : t.Settled) :
    t.state.finished = true ↔ t.eventsLeft = 0 := by
  simp only [State.finished_iff, h.recorded, and_true, eventsLeft, ← List.length_eq_zero_iff]
  omega

theorem advance_steps (events : Nat) (h : t.Settled) (hl : 0 < t.state.limit)
    (hn : t.eventsLeft ≤ events) :
    Steps t.state (t.advance events).state ∧ (t.advance events).state.finished = true := by
  induction events generalizing t with
  | zero =>
    refine ⟨.refl _, ?_⟩
    have hleft : t.eventsLeft = 0 := by omega
    exact (finished_iff_eventsLeft h).mpr hleft
  | succ n ih =>
    by_cases hleft : 0 < t.eventsLeft
    · obtain ⟨u, hu, hset, hsteps, hdec, hlimit⟩ := advance?_steps h hl hleft
      obtain ⟨hrest, hfin⟩ := ih hset (by rw [hlimit]; exact hl) (by omega)
      simp only [advance, hu]
      exact ⟨hsteps.trans hrest, hfin⟩
    · have hfin : t.state.finished = true := (finished_iff_eventsLeft h).mpr (by omega)
      obtain ⟨hq, hr, -⟩ := State.finished_iff.mp hfin
      have hstop : t.advance? = none := by
        simp [advance?, launch?_eq_none (.inl hq), finish?, State.record?, hr]
      simp only [advance, hstop]
      exact ⟨.refl _, hfin⟩

end Timeline

/-! ## 3. The run by the clock -/

variable (limit : Int) (timed : Bool) (jobs : List Job) (store : Store)

theorem timeline_advances :
    Steps (State.initial limit timed jobs store) (timeline limit timed jobs store).state ∧
      (timeline limit timed jobs store).state.finished = true :=
  Timeline.advance_steps (t := { state := State.initial limit timed jobs store }) _ ⟨rfl, rfl⟩
    (clampConcurrency_pos limit) (by simp [Timeline.eventsLeft, State.initial])

/-- **A timeline is one of the interleavings.** -/
theorem timeline_steps :
    Steps (State.initial limit timed jobs store) (timeline limit timed jobs store).state :=
  (timeline_advances limit timed jobs store).1

theorem timeline_finished : (timeline limit timed jobs store).state.finished = true :=
  (timeline_advances limit timed jobs store).2

end Executor
end ClusterTriage
