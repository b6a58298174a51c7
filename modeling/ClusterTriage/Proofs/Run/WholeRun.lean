import ClusterTriage.Proofs.Explanation.Observed
import ClusterTriage.Proofs.Plugin.Answers
import ClusterTriage.Proofs.Run.Clock
import ClusterTriage.Report.Basic
import ClusterTriage.Run.Phases
import Mathlib.Algebra.GroupWithZero.Nat

/-!
# Both phases of a run

A run of the selected analyzers and a run of the custom ones share a store and nothing else: each has
its own gate, and each reports what is wrong with its part of the request before its first job is
launched. So the order of a store is fixed between the phases and free within them, and a report,
which only counts and lists, cannot tell one schedule from another.

> **A phase appends its shares**: what was known before, then the outcomes of its jobs in one order
> (`Phase.Takes.eq`).

Two of these equations, one after the other, are the account of a whole run. The run that the clock
decides on is one of those that they speak of (`exists_course`).
-/

namespace ClusterTriage

/-! ## 1. Phases -/

namespace Run

/-- What one phase is given. -/
structure Phase where
  limit : Int
  timed : Bool
  /-- What is wrong with the request. -/
  errors : List String
  jobs : List Job

/-- A phase takes a store to another one if some interleaving of its jobs ends there. -/
def Phase.Takes (p : Phase) (s t : Store) : Prop :=
  ∃ last, Executor.Steps (.initial p.limit p.timed p.jobs (report p.errors s)) last ∧
    last.finished = true ∧ last.store = t

theorem report_eq (errors : List String) (s : Store) :
    report errors s = { s with errors := s.errors ++ errors } := by
  unfold report
  induction errors generalizing s with
  | nil => simp
  | cons e rest ih =>
    rw [List.foldl_cons, ih]
    simp [Store.pushError]

variable {p : Phase} {s t : Store}

/-- **A phase appends its shares.** One order of its jobs explains all three lists. -/
theorem Phase.Takes.eq (h : p.Takes s t) :
    ∃ order : List Job, order.Perm p.jobs ∧
      t = { findings := s.findings ++ order.flatMap fun j => j.outcome.findings
            errors := s.errors ++ p.errors ++ order.flatMap fun j => j.outcome.errors j.name
            timings := s.timings ++ order.flatMap fun j => j.timings p.timed } := by
  obtain ⟨last, hsteps, hfin, rfl⟩ := h
  obtain ⟨launched, logged, released, hledger⟩ :=
    hsteps.ledger (Executor.State.fresh_initial p.limit p.timed p.jobs (report p.errors s))
  refine ⟨logged, hledger.logged_of_finished hfin, ?_⟩
  have hstore : last.store = logged.foldl (Store.recordJob p.timed) (report p.errors s) :=
    hledger.store
  rw [hstore, Store.foldl_recordJob, report_eq]

theorem Phase.clock_takes (p : Phase) (s : Store) :
    p.Takes s (Executor.timeline p.limit p.timed p.jobs (report p.errors s)).state.store :=
  ⟨_, Executor.timeline_steps .., Executor.timeline_finished .., rfl⟩

end Run

/-! ## 2. What the jobs of a phase are -/

namespace Run

open Plugin (Answer)

variable {σ : Type}

/-- A computation can have a result if it has it in some world. -/
def CanBring {α : Type} (x : StateM σ α) (a : α) : Prop := ∃ w w', x.run w = (a, w')

/-- One job for each named analyzer, under its name, with an outcome that the analyzer can have. -/
def Brought (analyzers : List (String × StateM σ (Trial Outcome))) (jobs : List Job) : Prop :=
  List.Forall₂ (fun a job => job.name = a.1 ∧ CanBring a.2 ⟨job.outcome, job.duration⟩)
    analyzers jobs

/-- One answer for each custom analyzer, with a reply that it can have. -/
def Answered (connect : Plugin → StateM σ (Trial Plugin.Reply)) (plugins : List Plugin)
    (answers : List Answer) : Prop :=
  List.Forall₂ (fun p a => a.plugin = p ∧ CanBring (connect p) ⟨a.reply, a.duration⟩) plugins answers

theorem jobs_cons_run {name : String} {analyzer : StateM σ (Trial Outcome)} {t : Trial Outcome}
    {rest : List (String × StateM σ (Trial Outcome))} {brought : List Job} {w w₁ w₂ : σ}
    (h : analyzer.run w = (t, w₁)) (hrest : (jobs rest).run w₁ = (brought, w₂)) :
    (jobs ((name, analyzer) :: rest)).run w = (⟨name, t.result, t.duration⟩ :: brought, w₂) := by
  unfold jobs at hrest ⊢
  rw [List.mapM_cons]
  have hjob : (do
      let t ← analyzer
      return { name, outcome := t.result, duration := t.duration } : StateM σ Job).run w =
      (⟨name, t.result, t.duration⟩, w₁) := run_bind_of_run h
  exact (run_bind_of_run hjob).trans (run_bind_of_run hrest)

theorem jobs_run (analyzers : List (String × StateM σ (Trial Outcome))) (w : σ) :
    ∃ brought w', (jobs analyzers).run w = (brought, w') ∧ Brought analyzers brought := by
  induction analyzers generalizing w with
  | nil => exact ⟨[], w, rfl, .nil⟩
  | cons a rest ih =>
    obtain ⟨name, analyzer⟩ := a
    obtain ⟨brought, w', hrest, hbrought⟩ := ih (analyzer.run w).2
    exact ⟨⟨name, (analyzer.run w).1.result, (analyzer.run w).1.duration⟩ :: brought, w',
      jobs_cons_run rfl hrest, .cons ⟨rfl, w, _, rfl⟩ hbrought⟩

theorem Brought.names {analyzers : List (String × StateM σ (Trial Outcome))} {brought : List Job}
    (h : Brought analyzers brought) : brought.map Job.name = analyzers.map (·.1) := by
  induction h with
  | nil => rfl
  | cons hjob _ ih => rw [List.map_cons, List.map_cons, ih, hjob.1]

/-- A custom analyzer with its reply as the phase takes it. -/
def ask (connect : Plugin → StateM σ (Trial Plugin.Reply)) (p : Plugin) :
    StateM σ (Trial (Except AnalyzerError Finding)) := do
  let reply ← connect p
  return { result := reply.result.result, duration := reply.duration }

/-- An entry as the phase runs it. -/
def entry (connect : Plugin → StateM σ (Trial Plugin.Reply)) (p : Plugin) :
    String × StateM σ (Trial Outcome) :=
  (p.name, do
    let t ← ask connect p
    return { result := p.outcome t.result, duration := t.duration })

theorem entry_run {connect : Plugin → StateM σ (Trial Plugin.Reply)} {p : Plugin}
    {t : Trial Plugin.Reply} {w w' : σ} (h : (connect p).run w = (t, w')) :
    (entry connect p).2.run w = (⟨p.outcome t.result.result, t.duration⟩, w') := by
  have hask : (ask connect p).run w = (⟨t.result.result, t.duration⟩, w') := run_bind_of_run h
  exact run_bind_of_run hask

theorem answers_run (connect : Plugin → StateM σ (Trial Plugin.Reply)) (plugins : List Plugin) (w : σ) :
    ∃ answers w', (jobs (plugins.map (entry connect))).run w = (answers.map Answer.job, w') ∧
      Answered connect plugins answers := by
  induction plugins generalizing w with
  | nil => exact ⟨[], w, rfl, .nil⟩
  | cons p rest ih =>
    obtain ⟨⟨t, w₁⟩, hreply⟩ : ∃ r, (connect p).run w = r := ⟨_, rfl⟩
    obtain ⟨answers, w', hrest, hanswered⟩ := ih w₁
    exact ⟨⟨p, t.result, t.duration⟩ :: answers, w', jobs_cons_run (entry_run hreply) hrest,
      .cons ⟨rfl, w, w₁, hreply⟩ hanswered⟩

/-! ## 3. Courses -/

/-- The phase of the selected analyzers, given what they bring. -/
def analysisPhase {α : Type} (o : RunOptions) (r : Registry α) (selected : List Job) : Phase where
  limit := o.maxConcurrency
  timed := o.timed
  errors := (Selection.ofFilters o.filters o.activeFilters r).errors
  jobs := selected

/-- The phase of the custom analyzers, given what they bring. -/
def customPhase (o : RunOptions) (custom : List Job) : Phase where
  limit := o.pluginConcurrency
  timed := o.timed
  errors := Plugin.invalid o.plugins
  jobs := custom

/-- A way in which both phases can go, on a fresh store: any interleaving within each of them. -/
def Course {α : Type} (o : RunOptions) (r : Registry α) (selected custom : List Job) (t : Store) :
    Prop :=
  ∃ s, (analysisPhase o r selected).Takes {} s ∧ (customPhase o custom).Takes s t

/-- Both phases as they are carried out. -/
def bothPhases (o : RunOptions) (r : Registry (StateM σ (Trial Outcome)))
    (connect : Plugin → StateM σ (Trial Plugin.Reply)) : StateM σ Store := do
  let t ← analysis o r {}
  let t ← Run.custom o (ask connect) t.state.store
  return t.state.store

/-- **What is carried out is a course** of what the analyzers can bring. -/
theorem exists_course (o : RunOptions) (r : Registry (StateM σ (Trial Outcome)))
    (connect : Plugin → StateM σ (Trial Plugin.Reply)) (w : σ) :
    ∃ selected answers t w', (bothPhases o r connect).run w = (t, w') ∧
      Brought (Selection.ofFilters o.filters o.activeFilters r).analyzers selected ∧
      Answered connect (o.plugins.filter fun p => p.validate.isOk) answers ∧
      Course o r selected (answers.map Answer.job) t := by
  obtain ⟨selected, w₁, hselected, hbrought⟩ :=
    jobs_run (Selection.ofFilters o.filters o.activeFilters r).analyzers w
  obtain ⟨answers, w₂, hcustom, hanswered⟩ := answers_run connect (Plugin.valid o.plugins) w₁
  refine ⟨selected, answers, _, w₂, ?_, hbrought, hanswered, _, Phase.clock_takes _ _,
    Phase.clock_takes _ _⟩
  have hfirst : (analysis o r {}).run w =
      (Executor.timeline o.maxConcurrency o.timed selected (report _ {}), w₁) :=
    run_bind_of_run hselected
  have hsecond : ∀ s, (Run.custom o (ask connect) s).run w₁ =
      (Executor.timeline o.pluginConcurrency o.timed (answers.map Answer.job)
        (report (Plugin.invalid o.plugins) s), w₂) :=
    fun s => run_bind_of_run hcustom
  exact (run_bind_of_run hfirst).trans (run_bind_of_run (hsecond _))

/-! ## 4. The account of a course -/

section

variable {α : Type} {o : RunOptions} {r : Registry α} {selected custom : List Job} {t t' : Store}

theorem ofFilters_errors (explicit active : List String) (r : Registry α) :
    (Selection.ofFilters explicit active r).errors =
      (explicit.filter fun name => !r.contains name).map Selection.unknownFilter := by
  unfold Selection.ofFilters
  cases explicit with
  | nil => cases active <;> rfl
  | cons n rest => rfl

theorem Course.eq (h : Course o r selected custom t) :
    ∃ first second : List Job, first.Perm selected ∧ second.Perm custom ∧
      t.errors = (o.filters.filter fun name => !r.contains name).map Selection.unknownFilter ++
        first.flatMap (fun j => j.outcome.errors j.name) ++
        Plugin.invalid o.plugins ++ second.flatMap (fun j => j.outcome.errors j.name) ∧
      t.findings = first.flatMap (fun j => j.outcome.findings) ++
        second.flatMap (fun j => j.outcome.findings) ∧
      t.timings = first.flatMap (fun j => j.timings o.timed) ++
        second.flatMap (fun j => j.timings o.timed) := by
  obtain ⟨s, hanalysis, hcustom⟩ := h
  obtain ⟨first, hfirst, rfl⟩ := hanalysis.eq
  obtain ⟨second, hsecond, rfl⟩ := hcustom.eq
  refine ⟨first, second, hfirst, hsecond, ?_, rfl, rfl⟩
  rw [← ofFilters_errors o.filters o.activeFilters r]
  rfl

theorem Course.findings_perm (h : Course o r selected custom t)
    (h' : Course o r selected custom t') : t.findings.Perm t'.findings := by
  obtain ⟨first, second, hfirst, hsecond, -, hfindings, -⟩ := h.eq
  obtain ⟨first', second', hfirst', hsecond', -, hfindings', -⟩ := h'.eq
  rw [hfindings, hfindings']
  exact ((hfirst.trans hfirst'.symm).flatMap_right _).append
    ((hsecond.trans hsecond'.symm).flatMap_right _)

theorem Course.errors_perm (h : Course o r selected custom t)
    (h' : Course o r selected custom t') : t.errors.Perm t'.errors := by
  obtain ⟨first, second, hfirst, hsecond, herrors, -, -⟩ := h.eq
  obtain ⟨first', second', hfirst', hsecond', herrors', -, -⟩ := h'.eq
  rw [herrors, herrors']
  -- the two parts that come before the jobs of a phase stand where they are
  refine .append (.append_right _ (.append_left _ ?_)) ?_
  · exact (hfirst.trans hfirst'.symm).flatMap_right _
  · exact (hsecond.trans hsecond'.symm).flatMap_right _

theorem timings_names (timed : Bool) (jobs : List Job) :
    (jobs.flatMap fun j => j.timings timed).map Timing.analyzer =
      if timed then jobs.map Job.name else [] := by
  cases timed with
  | false => simp [Job.timings]
  | true =>
    rw [List.map_flatMap, if_pos rfl, List.map_eq_flatMap]
    rfl

theorem Course.timings_perm (h : Course o r selected custom t) :
    (t.timings.map Timing.analyzer).Perm
      (if o.timed then selected.map Job.name ++ custom.map Job.name else []) := by
  obtain ⟨first, second, hfirst, hsecond, -, -, htimings⟩ := h.eq
  rw [htimings, List.map_append, timings_names, timings_names]
  cases o.timed with
  | false => exact .refl _
  | true => exact (hfirst.map _).append (hsecond.map _)

/-- An order of the jobs is an order of the answers. -/
theorem exists_answers_of_perm {answers : List Answer} {jobs : List Job}
    (h : jobs.Perm (answers.map Answer.job)) :
    ∃ order : List Answer, order.Perm answers ∧ order.map Answer.job = jobs := by
  obtain ⟨order, hjobs, hperm⟩ := (congrFun (congrFun (List.eq_map_comp_perm Answer.job) _) _).mpr h
  exact ⟨order, hperm, hjobs.symm⟩

end

theorem problems_of_perm {findings findings' : List Finding} (h : findings.Perm findings') :
    Report.countProblems findings = Report.countProblems findings' :=
  (h.map _).sum_nat

/-- **A whole run accounts for everything, whatever the schedule.** Both phases on a fresh store,
carried out in any world, are a course of what the selected analyzers and the usable entries of the
configuration can bring; and every course of such jobs is accounted for. Its errors are the unknown names
among those asked for, the errors of the selected analyzers, what is wrong with the malformed entries, and
the errors that the answers of the others leave, in this order; its findings are those of the selected
analyzers and then those that the answers leave, and an answer leaves the finding that came, under the name
of its entry if it has no kind, or else one error. Timings are kept of all jobs or of none. A report on it
counts the failures of all findings, and a report on any other course of the same jobs comes to the same
count and verdict and has the same findings and errors. -/
theorem whole_run_accounts_for_everything (o : RunOptions)
    (r : Registry (StateM σ (Trial Outcome))) (connect : Plugin → StateM σ (Trial Plugin.Reply)) :
    let selection := Selection.ofFilters o.filters o.activeFilters r
    let usable := o.plugins.filter fun p => p.validate.isOk
    let malformed := o.plugins.filter fun p => !p.validate.isOk
    (∀ w, ∃ selected answers t w', (bothPhases o r connect).run w = (t, w') ∧
      Brought selection.analyzers selected ∧ Answered connect usable answers ∧
      Course o r selected (answers.map Answer.job) t) ∧
    ∀ selected answers t, Brought selection.analyzers selected → Answered connect usable answers →
      Course o r selected (answers.map Answer.job) t →
      (∃ (first : List Job) (reports : List String) (second : List Answer),
        first.Perm selected ∧ second.Perm answers ∧
        List.Forall₂ (fun p report => ∃ e, p.validate = .error e ∧ report = e.message)
          malformed reports ∧
        usable.length + reports.length = o.plugins.length ∧
        t.errors =
          (o.filters.filter fun name => !r.contains name).map Selection.unknownFilter ++
          first.flatMap (fun j => j.outcome.errors j.name) ++
          reports ++ second.filterMap Answer.error? ∧
        t.findings = first.flatMap (fun j => j.outcome.findings) ++ second.filterMap Answer.finding?) ∧
      (∀ a ∈ answers,
        (∃ f, a.reply = .finding f ∧
          a.finding? = some { f with kind := if f.kind = "" then a.plugin.name else f.kind } ∧
          a.error? = none) ∨
        (∀ f, a.reply ≠ .finding f) ∧ a.finding? = none ∧
          ∃ e, a.error? = some (s!"[{a.plugin.name}] " ++ e)) ∧
      (t.timings.map Timing.analyzer).Perm
        (if o.timed then selection.analyzers.map (·.1) ++ usable.map Plugin.name else []) ∧
      ∀ t', Course o r selected (answers.map Answer.job) t' → ∀ provider,
        let report := Report.ofStore provider t
        let report' := Report.ofStore provider t'
        report.problems = (t.findings.map (·.failures.length)).sum ∧
        (report.verdict = .ok ↔ (t.findings.map (·.failures.length)).sum = 0) ∧
        report'.problems = report.problems ∧ report'.verdict = report.verdict ∧
        report'.findings.Perm report.findings ∧ report'.errors.Perm report.errors := by
  intro selection usable malformed
  refine ⟨exists_course o r connect, fun selected answers t hselected hanswers h => ?_⟩
  refine ⟨?_, fun a _ => a.one_of, ?_, fun t' h' provider => ?_⟩
  · obtain ⟨first, jobs, hfirst, hjobs, herrors, hfindings, -⟩ := h.eq
    obtain ⟨second, hsecond, rfl⟩ := exists_answers_of_perm hjobs
    rw [Answer.flatMap_errors_job] at herrors
    rw [Answer.flatMap_findings_job] at hfindings
    have hreports := Plugin.forall₂_invalid o.plugins
    refine ⟨first, Plugin.invalid o.plugins, second, hfirst, hsecond, hreports, ?_, herrors, hfindings⟩
    rw [← hreports.length_eq]
    exact (List.length_eq_length_filter_add _).symm
  · have hnames : (answers.map Answer.job).map Job.name = usable.map Plugin.name := by
      rw [← Answer.plugins_of_forall₂ hanswers, List.map_map, List.map_map]
      rfl
    rw [← hselected.names, ← hnames]
    exact h.timings_perm
  · intro report report'
    have hproblems : report'.problems = report.problems :=
      problems_of_perm (h'.findings_perm h)
    have hverdict : ∀ s : Store, (Report.ofStore provider s).verdict =
        if (Report.ofStore provider s).problems = 0 then .ok else .problemDetected := fun _ => rfl
    refine ⟨rfl, ?_, hproblems, ?_, h'.findings_perm h, h'.errors_perm h⟩
    · show report.verdict = .ok ↔ report.problems = 0
      rw [hverdict t]
      split <;> simp [*, report]
    · rw [hverdict t, hverdict t']
      simp only [hproblems, report, report']

end Run
end ClusterTriage
