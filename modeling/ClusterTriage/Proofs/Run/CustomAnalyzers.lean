import ClusterTriage.Program.Analyze
import ClusterTriage.Proofs.Run.WholeRun

/-!
# Custom analyzers, entry by entry

A custom analyzer is an entry of the configuration, and between the entry and the store there are four
places where it can come to an end: it is written wrongly, it cannot be connected, it fails when it is
run, it breaks off. The first is found out before anything runs, the others while other entries run
beside it. Wherever it is, the store has one thing to show for it.

> **Every entry is accounted for once** (`custom_phase_accounts_for_every_entry`): by what is wrong
> with it, before anything else, or by one finding, or by one error under its name.

That holds of any connector, the program's own among them (`custom_http`).
-/

namespace ClusterTriage

namespace Plugin

/-! ## 1. Connections -/

/-- What comes of connecting to a custom analyzer. -/
inductive Link (κ : Type) where
  | connected (k : κ)
  | failed (e : PluginError)
  /-- Connecting broke off, perhaps with a text. -/
  | broke (text : Option String)

/-- A way to reach custom analyzers: an entry is connected, and a connection can be run. Both take
time. -/
structure Connector (m : Type → Type) (κ : Type) where
  connect : Plugin → m (Trial (Link κ))
  run : κ → m (Trial Reply)

/-- Connects to a custom analyzer and runs it. -/
def Connector.reach {m : Type → Type} [Monad m] {κ : Type} (c : Connector m κ) (p : Plugin) :
    m (Trial Reply) := do
  let link ← c.connect p
  match link.result with
  | .connected k =>
    let t ← c.run k
    return { t with duration := link.duration + t.duration }
  | .failed e => return { result := .failed e, duration := link.duration }
  | .broke text => return { result := .broke text, duration := link.duration }

/-- The connector of the program. A connection is the address that will be asked, and the time at which
connecting began: the clock is not read again until the analyzer has answered. -/
def Connector.http {m : Type → Type} [Monad m] (w : Surroundings m) : Connector m (Nat × Url) where
  connect p := do
    let start ← w.now
    match p.endpoint with
    | .ok u => return { result := .connected (start, u) }
    | .error e => return { result := .failed e, duration := (← w.now) - start }
  run k := do
    let reply ← askAt w.send k.2
    let stop ← w.now
    match reply with
    | .ok f => return { result := .finding f, duration := stop - k.1 }
    | .error e => return { result := .failed e, duration := stop - k.1 }

variable {σ κ : Type}

/-- A connector with somebody writing down which entries it is asked to connect. -/
def Connector.watched (c : Connector (StateM σ) κ) : Connector (StateM (σ × List Plugin)) κ where
  connect p := fun w => (((c.connect p).run w.1).1, ((c.connect p).run w.1).2, w.2 ++ [p])
  run k := fun w => (((c.run k).run w.1).1, ((c.run k).run w.1).2, w.2)

open Run (CanBring) in
/-- The replies that an entry can have: what its connection brings, or why there is no connection.
Anything may happen to the world between connecting and running. -/
inductive Connector.Replies (c : Connector (StateM σ) κ) (p : Plugin) : Reply → Prop where
  | ran {k : κ} {d : Nat} {t : Trial Reply} (connected : CanBring (c.connect p) ⟨.connected k, d⟩)
      (ran : CanBring (c.run k) t) : Replies c p t.result
  | failed {e : PluginError} {d : Nat} (failed : CanBring (c.connect p) ⟨.failed e, d⟩) :
      Replies c p (.failed e)
  | broke {text : Option String} {d : Nat} (broke : CanBring (c.connect p) ⟨.broke text, d⟩) :
      Replies c p (.broke text)

/-- One answer for each of some entries, in their order, with a reply that the entry can have. -/
def Connector.Answers (c : Connector (StateM σ) κ) (plugins : List Plugin) (answers : List Answer) :
    Prop :=
  List.Forall₂ (fun p a => a.plugin = p ∧ c.Replies p a.reply) plugins answers

end Plugin

namespace Run

open Plugin (Answer Connector)

variable {σ κ : Type}

/-! ## 2. What is carried out -/

/-- The state in which the jobs of a phase are started. -/
def Phase.start (p : Phase) (s : Store) : Executor.State :=
  .initial p.limit p.timed p.jobs (report p.errors s)

variable {c : Connector (StateM σ) κ} {p : Plugin} {w w' : σ}

theorem watched_connect_run {link : Trial (Plugin.Link κ)} (h : (c.connect p).run w = (link, w'))
    (seen : List Plugin) :
    (c.watched.connect p).run (w, seen) = (link, w', seen ++ [p]) := by
  show (((c.connect p).run w).1, ((c.connect p).run w).2, seen ++ [p]) = _
  rw [h]

theorem watched_run_run {k : κ} {t : Trial Plugin.Reply} (h : (c.run k).run w = (t, w'))
    (seen : List Plugin) :
    (c.watched.run k).run (w, seen) = (t, w', seen) := by
  show (((c.run k).run w).1, ((c.run k).run w).2, seen) = _
  rw [h]

/-- An entry is connected once, and has a reply. -/
theorem reach_run (c : Connector (StateM σ) κ) (p : Plugin) (w : σ) (seen : List Plugin) :
    ∃ t w', (c.reach p).run w = (t, w') ∧ (c.watched.reach p).run (w, seen) = (t, w', seen ++ [p]) ∧
      c.Replies p t.result := by
  obtain ⟨⟨⟨link, d⟩, w₁⟩, hlink⟩ : ∃ r, (c.connect p).run w = r := ⟨_, rfl⟩
  have hwatched := watched_connect_run hlink seen
  cases link with
  | connected k =>
    obtain ⟨⟨t, w'⟩, hrun⟩ : ∃ r, (c.run k).run w₁ = r := ⟨_, rfl⟩
    have hreplies : c.Replies p t.result := .ran ⟨w, w₁, hlink⟩ ⟨w₁, w', hrun⟩
    exact ⟨⟨t.result, d + t.duration⟩, w', (run_bind_of_run hlink).trans (run_bind_of_run hrun),
      (run_bind_of_run hwatched).trans (run_bind_of_run (watched_run_run hrun _)), hreplies⟩
  | failed e =>
    exact ⟨_, w₁, run_bind_of_run hlink, run_bind_of_run hwatched, .failed ⟨w, w₁, hlink⟩⟩
  | broke text =>
    exact ⟨_, w₁, run_bind_of_run hlink, run_bind_of_run hwatched, .broke ⟨w, w₁, hlink⟩⟩

/-- The program reaches its custom analyzers through its connector. -/
theorem ask_http_reach (w : Surroundings (StateM σ)) (p : Plugin) :
    ask (Connector.http w).reach p = Program.timed w (p.ask w.send) := by
  unfold ask Connector.reach Connector.http Program.timed Plugin.ask
  cases hendpoint : p.endpoint with
  | error e => simp [hendpoint, Plugin.Reply.result]
  | ok u =>
    simp only [hendpoint, bind_assoc, pure_bind, Nat.zero_add]
    refine bind_congr fun start => bind_congr fun reply => bind_congr fun stop => ?_
    cases reply <;> rfl

/-- The phase of the custom analyzers as the program carries it out. -/
theorem custom_http (w : Surroundings (StateM σ)) (o : RunOptions) (s : Store) :
    Run.custom o (ask (Connector.http w).reach) s =
      Run.custom o (fun p => Program.timed w (p.ask w.send)) s :=
  congrArg (Run.custom o · s) (funext (ask_http_reach w))

/-- **The entries that are run are connected once each**, in their order, and have answers. -/
theorem jobs_entries_run (c : Connector (StateM σ) κ) (plugins : List Plugin) (w : σ)
    (seen : List Plugin) :
    ∃ answers w', (jobs (plugins.map (entry c.reach))).run w = (answers.map Answer.job, w') ∧
      (jobs (plugins.map (entry c.watched.reach))).run (w, seen) =
        (answers.map Answer.job, w', seen ++ plugins) ∧
      c.Answers plugins answers := by
  induction plugins generalizing w seen with
  | nil => exact ⟨[], w, rfl, by rw [List.append_nil]; rfl, .nil⟩
  | cons p rest ih =>
    obtain ⟨t, w₁, hreach, hwatched, hreplies⟩ := reach_run c p w seen
    obtain ⟨answers, w', hrest, hrestWatched, hanswers⟩ := ih w₁ (seen ++ [p])
    rw [List.append_assoc] at hrestWatched
    exact ⟨⟨p, t.result, t.duration⟩ :: answers, w', jobs_cons_run (entry_run hreach) hrest,
      jobs_cons_run (entry_run hwatched) hrestWatched, .cons ⟨rfl, hreplies⟩ hanswers⟩

/-! ## 3. The account of the phase -/

variable {o : RunOptions} {s : Store} {answers : List Answer} {t : Executor.State}

/-- **At any time some answers are recorded and the others are waiting**, and the store has what the
recorded ones leave behind what was wrong with the other entries. -/
theorem recorded_of_steps
    (h : Executor.Steps ((customPhase o (answers.map Answer.job)).start s) t) :
    ∃ recorded waiting, (recorded ++ waiting).Perm answers ∧
      (t.finished = true → waiting = []) ∧
      t.store.errors = s.errors ++ Plugin.invalid o.plugins ++ recorded.filterMap Answer.error? ∧
      t.store.findings = s.findings ++ recorded.filterMap Answer.finding? := by
  obtain ⟨launched, logged, released, hledger⟩ := h.ledger (Executor.State.fresh_initial _ _ _ _)
  have hjobs : (logged ++ (t.running ++ t.queued)).Perm (answers.map Answer.job) := by
    have hline : answers.map Answer.job = launched ++ t.queued := hledger.line
    rw [hline, ← List.append_assoc]
    exact (List.perm_append_comm.trans hledger.runs.symm).append_right _
  obtain ⟨order, hperm, horder⟩ := exists_answers_of_perm hjobs
  obtain ⟨recorded, waiting, rfl, hrecorded, hwaiting⟩ := List.map_eq_append_iff.mp horder
  refine ⟨recorded, waiting, hperm, fun hfinished => ?_, ?_⟩
  · obtain ⟨hqueued, hrunning, -⟩ := Executor.State.finished_iff.mp hfinished
    rw [hqueued, hrunning] at hwaiting
    exact List.map_eq_nil_iff.mp hwaiting
  · have hstore : t.store = logged.foldl (Store.recordJob o.timed) (report (Plugin.invalid o.plugins) s) :=
      hledger.store
    rw [Store.foldl_recordJob, report_eq, ← hrecorded, Answer.flatMap_errors_job,
      Answer.flatMap_findings_job] at hstore
    rw [hstore]
    exact ⟨rfl, rfl⟩

/-- **Every entry is accounted for once.** What is wrong with the malformed entries is said in their
order. The phase connects every other entry once, in their order, and none of the malformed ones; what
it carries out is one of the ways in which the jobs of the entries can go side by side. And in any of
these ways, at any time, the store has what it had before, then what is wrong with the malformed
entries, and then what the answers that are recorded leave, which in the end are all of them. An answer
leaves the finding of its connection, under the name of the entry if it has no kind, or else one error
under that name. Every finding has a kind. -/
theorem custom_phase_accounts_for_every_entry (o : RunOptions) (c : Connector (StateM σ) κ)
    (s : Store) :
    let usable := o.plugins.filter fun p => p.validate.isOk
    let malformed := o.plugins.filter fun p => !p.validate.isOk
    ∃ reports, List.Forall₂ (fun p report => ∃ e, p.validate = .error e ∧ report = e.message)
        malformed reports ∧
      (∀ w, ∃ answers t w',
        (Run.custom o (ask c.reach) s).run w = (t, w') ∧
        (Run.custom o (ask c.watched.reach) s).run (w, []) = (t, w', usable) ∧
        c.Answers usable answers ∧
        Executor.Steps ((customPhase o (answers.map Answer.job)).start s) t.state ∧
        t.state.finished = true) ∧
      ∀ answers t, c.Answers usable answers →
        Executor.Steps ((customPhase o (answers.map Answer.job)).start s) t →
        (∃ recorded waiting, (recorded ++ waiting).Perm answers ∧
          (t.finished = true → waiting = []) ∧
          t.store.errors = s.errors ++ reports ++ recorded.filterMap Answer.error? ∧
          t.store.findings = s.findings ++ recorded.filterMap Answer.finding? ∧
          ∀ f ∈ recorded.filterMap Answer.finding?, f.kind ≠ "") ∧
        ∀ a ∈ answers,
          (∃ f, a.reply = .finding f ∧
            a.finding? = some { f with kind := if f.kind = "" then a.plugin.name else f.kind } ∧
            a.error? = none) ∨
          (∀ f, a.reply ≠ .finding f) ∧ a.finding? = none ∧
            ∃ e, a.error? = some (s!"[{a.plugin.name}] " ++ e) := by
  intro usable malformed
  refine ⟨Plugin.invalid o.plugins, Plugin.forall₂_invalid o.plugins, fun w => ?_,
    fun answers t hanswers hsteps => ?_⟩
  · obtain ⟨answers, w', hjobs, hwatched, hanswers⟩ :=
      jobs_entries_run c (Plugin.valid o.plugins) w []
    exact ⟨answers, _, w', run_bind_of_run hjobs, run_bind_of_run hwatched, hanswers,
      Executor.timeline_steps .., Executor.timeline_finished ..⟩
  · obtain ⟨recorded, waiting, hperm, hfinished, herrors, hfindings⟩ := recorded_of_steps hsteps
    refine ⟨⟨recorded, waiting, hperm, hfinished, herrors, hfindings, fun f hf => ?_⟩,
      fun a _ => a.one_of⟩
    obtain ⟨a, ha, hfinding⟩ := List.mem_filterMap.mp hf
    have hentry : a.plugin ∈ usable := by
      rw [← Answer.plugins_of_forall₂ hanswers]
      exact List.mem_map_of_mem (hperm.subset (List.mem_append_left _ ha))
    exact a.kind_ne_empty (List.mem_filter.mp hentry).2 hfinding

/-- Five entries. The name of one has capitals, so it is not connected; one cannot be connected, and one
breaks off. The two others have one name, and what the first of them finds has no kind. -/
theorem five_entries_are_accounted_for :
    let entry (name : String) (port : Nat) : Plugin := ⟨name, "localhost", port⟩
    let o : RunOptions :=
      { plugins := [entry "disk" 8085, entry "Disk" 8086, entry "network" 8087, entry "audit" 8088,
          entry "disk" 8089] }
    let c : Connector (StateM Nat) Nat :=
      { connect := fun p => modifyGet fun n =>
          (⟨if p.port = 8087 then .failed (.http "refused") else .connected p.port, 0⟩, n + 1)
        run := fun port => pure
          ⟨if port = 8085 then .finding { name := "sda" }
            else if port = 8088 then .broke none
            else .finding { kind := "Volume", name := "sdb" }, 0⟩ }
    let usable := [entry "disk" 8085, entry "network" 8087, entry "audit" 8088, entry "disk" 8089]
    ∃ (answers recorded : List Answer) (t : Executor.Timeline) (w' : Nat),
      (Run.custom o (ask c.reach) {}).run 0 = (t, w') ∧
      (Run.custom o (ask c.watched.reach) {}).run (0, []) = (t, w', usable) ∧
      c.Answers usable answers ∧ recorded.Perm answers ∧ t.state.finished = true ∧
      t.state.store.errors =
        ["invalid custom analyzer name \"Disk\": must be a lowercase RFC 1123 subdomain",
          "[network] HTTP request failed: refused",
          "[audit] analyzer panicked: unknown panic payload"] ∧
      t.state.store.findings = [{ kind := "disk", name := "sda" }, { kind := "Volume", name := "sdb" }] ∧
      t.state.store.findings = recorded.filterMap Answer.finding? := by
  intro entry o c usable
  obtain ⟨reports, -, hruns, hstores⟩ := custom_phase_accounts_for_every_entry o c {}
  have husable : (o.plugins.filter fun p => p.validate.isOk) = usable := by decide +kernel
  rw [husable] at hruns hstores
  obtain ⟨answers, t, w', hrun, hwatched, hanswers, hsteps, hfinished⟩ := hruns 0
  obtain ⟨⟨recorded, waiting, hperm, hwaiting, -, hfindings, -⟩, -⟩ :=
    hstores answers t.state hanswers hsteps
  have hrecorded : recorded.Perm answers := by
    rwa [hwaiting hfinished, List.append_nil] at hperm
  have hstore : ((Run.custom o (ask c.reach) {}).run 0).1.state.store =
      { findings := [{ kind := "disk", name := "sda" }, { kind := "Volume", name := "sdb" }]
        errors := ["invalid custom analyzer name \"Disk\": must be a lowercase RFC 1123 subdomain",
          "[network] HTTP request failed: refused",
          "[audit] analyzer panicked: unknown panic payload"] } := by
    decide +kernel
  rw [hrun] at hstore
  exact ⟨answers, recorded, t, w', hrun, hwatched, hanswers, hrecorded, hfinished,
    congrArg Store.errors hstore, congrArg Store.findings hstore, hfindings⟩

end Run
end ClusterTriage
