import ClusterTriage.Run.Executor
import Mathlib.Data.List.Perm.Basic

/-!
# The ledger of a run

A state of `Executor` says who is in line, who runs and who still holds a permit. It does not say
what happened: in which order outcomes came in, and who has left. Every statement about a finished
run is about exactly that, so it is kept here beside the state, as three lists that only grow.

> **One step keeps the books**: whatever the step, one list gains one analyzer, and the books still
> balance (`Ledger.step`).

The rest follows by induction over the steps (`Ledger.steps`), and the books of a finished run have
no open entries: every analyzer launched is recorded, and its permit is back.
-/

namespace ClusterTriage

/-! ## 1. What one analyzer leaves behind -/

/-- What an outcome means for the store, case by case: findings are kept whatever happened, and every
analyzer that did not simply succeed leaves one sentence under its name. -/
inductive Outcome.Leaves (name : String) : Outcome → List Finding → List String → Prop where
  | succeeded (findings : List Finding) : Leaves name (.ok findings) findings []
  | interrupted (findings : List Finding) (cause : AnalyzerError) :
      Leaves name (.error (.interrupted findings cause)) findings [s!"[{name}] " ++ cause.message]
  | panicked (text : Option String) :
      Leaves name (.error (.ofPanic text)) []
        [s!"[{name}] analyzer panicked: " ++ text.getD "unknown panic payload"]
  | failed (cause : AnalyzerError) (whole : ∀ findings inner, cause ≠ .interrupted findings inner) :
      Leaves name (.error cause) [] [s!"[{name}] " ++ cause.message]

/-- The case distinction covers every outcome, and it is what the store computes. -/
theorem Outcome.leaves (name : String) (o : Outcome) :
    Outcome.Leaves name o o.findings (o.errors name) := by
  cases o with
  | ok findings => exact .succeeded findings
  | error e =>
    cases e with
    | interrupted findings cause => exact .interrupted findings cause
    | panicked message => exact .failed _ (by simp)
    | cluster cause => exact .failed _ (by simp)
    | noCluster => exact .failed _ (by simp)
    | plugin cause => exact .failed _ (by simp)
    | failed message => exact .failed _ (by simp)

/-- An outcome leaves nothing else. -/
theorem Outcome.Leaves.unique {name : String} {o : Outcome} {findings : List Finding}
    {errors : List String} (h : Outcome.Leaves name o findings errors) :
    findings = o.findings ∧ errors = o.errors name := by
  cases h with
  | succeeded => exact ⟨rfl, rfl⟩
  | interrupted => exact ⟨rfl, rfl⟩
  | panicked text =>
    have hwords : "] analyzer panicked: " = "] " ++ "analyzer panicked: " := by decide
    refine ⟨rfl, ?_⟩
    unfold AnalyzerError.ofPanic
    generalize text.getD "unknown panic payload" = payload
    show _ = [s!"[{name}] " ++ s!"analyzer panicked: {payload}"]
    simp only [hwords, toString, String.append_assoc]
  | failed cause whole =>
    cases cause with
    | interrupted findings inner => exact absurd rfl (whole findings inner)
    | panicked | cluster | noCluster | plugin | failed => exact ⟨rfl, rfl⟩

/-- The timing that a job leaves: one if timings are recorded, else none. -/
def Job.timings (timed : Bool) (job : Job) : List Timing :=
  if timed then [⟨job.name, job.duration⟩] else []

/-- The store after the outcome of a job is recorded in it. -/
def Store.recordJob (timed : Bool) (s : Store) (job : Job) : Store :=
  s.record job.name job.outcome (if timed then some job.duration else none)

/-- Recording jobs one after another appends their shares in the same order to all three lists.
This is where the three lists stay in step: one order serves them all. -/
theorem Store.foldl_recordJob (timed : Bool) (jobs : List Job) (s : Store) :
    jobs.foldl (Store.recordJob timed) s =
      { findings := s.findings ++ jobs.flatMap fun j => j.outcome.findings
        errors := s.errors ++ jobs.flatMap fun j => j.outcome.errors j.name
        timings := s.timings ++ jobs.flatMap fun j => j.timings timed } := by
  induction jobs generalizing s with
  | nil => simp
  | cons job rest ih =>
    rw [List.foldl_cons, ih]
    cases timed <;>
      simp [Store.recordJob, Store.record, Job.timings, List.flatMap_cons, List.append_assoc]

namespace Executor

variable {start s t : State} {launched logged released : List Job}

/-! ## 2. What the three kinds of step do -/

theorem State.launch?_eq_some : s.launch? = some t ↔
    ∃ job rest, s.queued = job :: rest ∧ s.held < s.limit ∧
      t = { s with queued := rest, running := s.running ++ [job] } := by
  unfold State.launch?
  cases hq : s.queued with
  | nil => simp
  | cons job rest =>
    by_cases hg : s.held < s.limit
    · simp only [hg, if_true, Option.some.injEq, true_and, List.cons.injEq]
      constructor
      · rintro rfl
        exact ⟨job, rest, ⟨rfl, rfl⟩, rfl⟩
      · rintro ⟨_, _, ⟨rfl, rfl⟩, rfl⟩
        rfl
    · simp [hg]

theorem State.record?_eq_some {i : Nat} : s.record? i = some t ↔
    ∃ job, s.running[i]? = some job ∧
      t = { s with
        running := s.running.eraseIdx i
        recorded := s.recorded ++ [job]
        store := s.store.recordJob s.timed job } := by
  unfold State.record? Store.recordJob
  rw [Option.map_eq_some_iff]
  simp only [eq_comm]

theorem State.release?_eq_some {i : Nat} : s.release? i = some t ↔
    i < s.recorded.length ∧ t = { s with recorded := s.recorded.eraseIdx i } := by
  unfold State.release?
  by_cases hi : i < s.recorded.length
  · simp [hi, eq_comm]
  · simp [hi]

/-- Taking an entry out of a list and putting it in front is a rearrangement. -/
theorem perm_cons_eraseIdx {α : Type} {l : List α} {i : Nat} {a : α} (h : l[i]? = some a) :
    l.Perm (a :: l.eraseIdx i) := by
  obtain ⟨hi, rfl⟩ := List.getElem?_eq_some_iff.mp h
  exact (List.getElem_cons_eraseIdx_perm hi).symm

/-! ## 3. The books -/

/-- The books of a run from `start` to `s`: who was launched, in the order of launching; whose
outcome is recorded, in the order of recording; and whose permit is back. -/
structure Ledger (start s : State) (launched logged released : List Job) : Prop where
  limit : s.limit = start.limit
  timed : s.timed = start.timed
  /-- Launching follows the line: what is not launched is still in line, in its old order. -/
  line : start.queued = launched ++ s.queued
  /-- Whoever was launched is still running or is recorded. -/
  runs : launched.Perm (s.running ++ logged)
  /-- Whoever is recorded still holds a permit or has given it back. -/
  permits : logged.Perm (s.recorded ++ released)
  /-- The store holds the recorded outcomes, and nothing else came in. -/
  store : s.store = logged.foldl (Store.recordJob start.timed) start.store
  /-- No more permits are held than there are. -/
  gate : s.held ≤ s.limit

/-- Whether nothing has happened yet. -/
def State.Fresh (s : State) : Prop := s.running = [] ∧ s.recorded = []

theorem State.fresh_initial (limit : Int) (timed : Bool) (jobs : List Job) (store : Store) :
    (State.initial limit timed jobs store).Fresh := ⟨rfl, rfl⟩

theorem Ledger.open_ (h : s.Fresh) : Ledger s s [] [] [] where
  limit := rfl
  timed := rfl
  line := rfl
  runs := by rw [h.1]; exact .refl _
  permits := by rw [h.2]; exact .refl _
  store := rfl
  gate := by simp [State.held, h.1, h.2]

theorem Ledger.launch (h : Ledger start s launched logged released) {job : Job} {rest : List Job}
    (hq : s.queued = job :: rest) (hg : s.held < s.limit) :
    Ledger start { s with queued := rest, running := s.running ++ [job] }
      (launched ++ [job]) logged released where
  limit := h.limit
  timed := h.timed
  line := by rw [h.line, hq, List.append_assoc, List.singleton_append]
  runs := by
    refine (h.runs.append_right [job]).trans ?_
    rw [List.append_assoc, List.append_assoc]
    exact List.perm_append_comm.append_left s.running
  permits := h.permits
  store := h.store
  gate := by
    simp only [State.held, List.length_append, List.length_singleton] at hg ⊢
    omega

theorem Ledger.record (h : Ledger start s launched logged released) {i : Nat} {job : Job}
    (hj : s.running[i]? = some job) :
    Ledger start
      { s with
        running := s.running.eraseIdx i
        recorded := s.recorded ++ [job]
        store := s.store.recordJob s.timed job }
      launched (logged ++ [job]) released where
  limit := h.limit
  timed := h.timed
  line := h.line
  runs := by
    -- `job` moves from the running ones behind the logged ones
    have hmove : (s.running ++ logged).Perm (job :: (s.running.eraseIdx i ++ logged)) :=
      (perm_cons_eraseIdx hj).append_right logged
    refine (h.runs.trans hmove).trans ?_
    rw [← List.append_assoc]
    exact (List.perm_append_singleton job _).symm
  permits := by
    refine (h.permits.append_right [job]).trans ?_
    rw [List.append_assoc, List.append_assoc]
    exact List.perm_append_comm.append_left s.recorded
  store := by rw [List.foldl_append, ← h.store, h.timed]; rfl
  gate := by
    obtain ⟨hi, -⟩ := List.getElem?_eq_some_iff.mp hj
    have hgate := h.gate
    simp only [State.held, List.length_append, List.length_singleton,
      List.length_eraseIdx_of_lt hi] at hgate ⊢
    omega

theorem Ledger.release (h : Ledger start s launched logged released) {i : Nat}
    (hi : i < s.recorded.length) :
    Ledger start { s with recorded := s.recorded.eraseIdx i } launched logged
      (s.recorded[i] :: released) where
  limit := h.limit
  timed := h.timed
  line := h.line
  runs := h.runs
  permits := by
    refine h.permits.trans ?_
    refine ((perm_cons_eraseIdx (List.getElem?_eq_getElem hi)).append_right released).trans ?_
    exact List.perm_middle.symm
  store := h.store
  gate := by
    have hgate := h.gate
    simp only [State.held, List.length_eraseIdx_of_lt hi] at hgate ⊢
    omega

/-- **One step keeps the books.** -/
theorem Ledger.step (h : Ledger start s launched logged released) (hs : Step s t) :
    ∃ launched' logged' released', Ledger start t launched' logged' released' := by
  cases hs with
  | launch h' =>
    obtain ⟨job, rest, hq, hg, rfl⟩ := State.launch?_eq_some.mp h'
    exact ⟨_, _, _, h.launch hq hg⟩
  | record i h' =>
    obtain ⟨job, hj, rfl⟩ := State.record?_eq_some.mp h'
    exact ⟨_, _, _, h.record hj⟩
  | release i h' =>
    obtain ⟨hi, rfl⟩ := State.release?_eq_some.mp h'
    exact ⟨_, _, _, h.release hi⟩

theorem Ledger.steps (h : Ledger start s launched logged released) (hs : Steps s t) :
    ∃ launched' logged' released', Ledger start t launched' logged' released' := by
  induction hs generalizing launched logged released with
  | refl => exact ⟨_, _, _, h⟩
  | head first _ ih =>
    obtain ⟨_, _, _, h'⟩ := h.step first
    exact ih h'

/-- Every reachable state has books. -/
theorem Steps.ledger (hf : start.Fresh) (hs : Steps start s) :
    ∃ launched logged released, Ledger start s launched logged released :=
  (Ledger.open_ hf).steps hs

/-! ## 4. Closed books -/

theorem State.finished_iff : s.finished = true ↔ s.queued = [] ∧ s.running = [] ∧ s.recorded = [] := by
  simp [State.finished, and_assoc]

/-- In a finished run everybody in line at the start is recorded. -/
theorem Ledger.logged_of_finished (h : Ledger start s launched logged released)
    (hf : s.finished = true) : logged.Perm start.queued := by
  obtain ⟨hq, hr, -⟩ := State.finished_iff.mp hf
  have hl := h.runs
  rw [hr, List.nil_append] at hl
  rw [h.line, hq, List.append_nil]
  exact hl.symm

/-- **A finished run accounts for every analyzer**, whatever the interleaving was. One order of the
jobs explains all three lists of the store at once: each list is what it was at the start, followed
by the shares of the jobs in that order, unbroken. What a share is, `Outcome.Leaves` says case by
case. -/
theorem finished_store_accounts_for_all_jobs {limit : Int} {timed : Bool} {jobs : List Job}
    {store : Store} (hs : Steps (State.initial limit timed jobs store) t)
    (hf : t.finished = true) :
    ∃ order : List Job, order.Perm jobs ∧
      t.store.findings = store.findings ++ order.flatMap (fun j => j.outcome.findings) ∧
      t.store.errors = store.errors ++ order.flatMap (fun j => j.outcome.errors j.name) ∧
      t.store.timings = store.timings ++ order.flatMap (fun j => j.timings timed) ∧
      ∀ j ∈ jobs, Outcome.Leaves j.name j.outcome j.outcome.findings (j.outcome.errors j.name) := by
  obtain ⟨launched, logged, released, h⟩ := hs.ledger (State.fresh_initial limit timed jobs store)
  have hstore : t.store = logged.foldl (Store.recordJob timed) store := h.store
  rw [Store.foldl_recordJob] at hstore
  refine ⟨logged, h.logged_of_finished hf, ?_, ?_, ?_, fun j _ => Outcome.leaves j.name j.outcome⟩
  · rw [hstore]
  · rw [hstore]
  · rw [hstore]

/-- Two analyzers side by side, the second of which breaks off and overtakes the first. -/
theorem finished_store_of_overtaking :
    let slow : Job := ⟨"Pod", .ok [{ kind := "Pod", name := "shop/web-1" }], 5⟩
    let broken : Job := ⟨"Node", .error (.ofPanic (some "boom")), 3⟩
    ∃ t, Steps (State.initial 2 true [slow, broken] {}) t ∧ t.finished = true ∧
      t.store.errors = ["[Node] analyzer panicked: boom"] ∧
      ∃ order : List Job, order.Perm [slow, broken] ∧
        t.store.findings = [] ++ order.flatMap (fun j => j.outcome.findings) ∧
        t.store.errors = [] ++ order.flatMap (fun j => j.outcome.errors j.name) ∧
        t.store.timings = [] ++ order.flatMap (fun j => j.timings true) ∧
        ∀ j ∈ [slow, broken],
          Outcome.Leaves j.name j.outcome j.outcome.findings (j.outcome.errors j.name) := by
  intro slow broken
  have hs : Steps (State.initial 2 true [slow, broken] {}) _ :=
    .head (.launch rfl) <| .head (.launch rfl) <| .head (.record 1 rfl) <| .head (.record 0 rfl) <|
      .head (.release 0 rfl) <| .head (.release 0 rfl) <| .refl _
  exact ⟨_, hs, rfl, by decide, finished_store_accounts_for_all_jobs hs rfl⟩

end Executor
end ClusterTriage
