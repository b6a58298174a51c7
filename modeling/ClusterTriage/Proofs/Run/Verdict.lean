import ClusterTriage.Proofs.Analyzer.Findings
import ClusterTriage.Proofs.Explanation.Pass
import ClusterTriage.Proofs.Run.CustomAnalyzers
import ClusterTriage.Proofs.Run.Explaining
import ClusterTriage.Proofs.Run.WholeRun
import ClusterTriage.Proofs.Selection.Listing
import Mathlib.Logic.Relation

/-!
# The verdict of a report

A report counts failures and calls a run fine if there are none. A reader looks at the list of findings
instead. The two agree as long as no finding is empty, and no built-in analyzer makes an empty one; a custom
analyzer is free to, and then they do not agree.

> **Without custom analyzers a run is fine exactly if nothing was found** (`builtin_findings_decide_the_verdict`),
> whatever filters select the analyzers, however their jobs overlap, and with explanations or without.

That no finding is empty is an invariant of the store: each phase keeps it (`Moves.failures_ne_nil`).
-/

namespace ClusterTriage

/-! ## 1. Counting failures -/

theorem Report.verdict_eq_ok_iff {provider : String} {s : Store} (h : ∀ f ∈ s.findings, f.failures ≠ []) :
    (Report.ofStore provider s).verdict = .ok ↔ (Report.ofStore provider s).findings = [] := by
  have hcount : Report.countProblems s.findings = 0 ↔ s.findings = [] := by
    cases hfindings : s.findings with
    | nil => exact iff_of_true rfl rfl
    | cons f rest =>
      have hf : f.failures ≠ [] := h f (by rw [hfindings]; exact List.mem_cons_self)
      simp [Report.countProblems, hf]
  show (if Report.countProblems s.findings = 0 then Verdict.ok else .problemDetected) = .ok ↔ s.findings = []
  rw [← hcount, ite_eq_left_iff]
  simp

/-! ## 2. What a run comes to -/

theorem Analyzer.sorted_builtin {m : Type → Type} [Monad m] (x : Context m) :
    (Analyzer.builtin x).core.Sorted :=
  (((((NameMap.sorted_empty.insert _ _).insert _ _).insert _ _).insert _ _).insert _ _).insert _ _

namespace Run

open Plugin (Answer)

variable {σ : Type} (w : Surroundings (StateM σ)) (x : Context (StateM σ)) (o : RunOptions)

/-- What one phase can do to the store of a run whose custom analyzers are reached by `connect`. The jobs of
a phase overlap in any way, and each meets the world in any state. -/
inductive Moves (connect : Plugin → StateM σ (Trial Plugin.Reply)) : Store → Store → Prop
  | analysis {s t : Store} {selected : List Job}
      (brought : Brought (Selection.ofFilters o.filters o.activeFilters (Program.analyzers w x)).analyzers
        selected)
      (takes : (analysisPhase o (Program.analyzers w x) selected).Takes s t) : Moves connect s t
  | custom {s t : Store} {answers : List Answer}
      (answered : Answered connect (o.plugins.filter fun p => p.validate.isOk) answers)
      (takes : (customPhase o (answers.map Answer.job)).Takes s t) : Moves connect s t
  | explained {s t : Store} {e : Option (Explainer (StateM σ))} {outcome : Except ExplainError Unit}
      {w₀ w₁ : σ} (run : (Run.explain e s).run w₀ = ((outcome, t), w₁)) : Moves connect s t

/-- The stores that a run with the built-in analyzers comes to. Phases come in any order and any number, and
custom analyzers may be reached in another way each time. -/
def Reach (t : Store) : Prop := Relation.ReflTransGen (fun s s' => ∃ connect, Moves w x o connect s s') {} t

variable {w x o} {s t : Store}

theorem Reach.of_moves {connect : Plugin → StateM σ (Trial Plugin.Reply)}
    (h : Relation.ReflTransGen (Moves w x o connect) {} s) : Reach w x o s :=
  h.lift id fun _ _ hmove => ⟨connect, hmove⟩

/-- A selected analyzer is a built-in one that is timed. -/
theorem builtin_of_selected {e : String × StateM σ (Trial Outcome)}
    (h : e ∈ (Selection.ofFilters o.filters o.activeFilters (Program.analyzers w x)).analyzers) :
    ∃ analyzer, (Analyzer.builtin x).find? e.1 = some analyzer ∧ e.2 = Program.timed w analyzer := by
  have hfind := Selection.find?_of_mem_ofFilters ((Analyzer.sorted_builtin x).map _) h
  rw [Program.analyzers, Registry.find?_map] at hfind
  obtain ⟨analyzer, hanalyzer, htimed⟩ := Option.map_eq_some_iff.mp hfind
  exact ⟨analyzer, hanalyzer, htimed.symm⟩

theorem exists_of_mem_right {α β : Type} {R : α → β → Prop} {as : List α} {bs : List β}
    (h : List.Forall₂ R as bs) {b : β} (hb : b ∈ bs) : ∃ a ∈ as, R a b := by
  induction h with
  | nil => cases hb
  | @cons a _ _ _ hfirst _ ih =>
    rcases List.mem_cons.mp hb with rfl | hrest
    · exact ⟨a, List.mem_cons_self, hfirst⟩
    · obtain ⟨a', ha', hrelated⟩ := ih hrest
      exact ⟨a', List.mem_cons_of_mem _ ha', hrelated⟩

theorem failures_ne_nil_of_brought {selected : List Job}
    (h : Brought (Selection.ofFilters o.filters o.activeFilters (Program.analyzers w x)).analyzers selected) :
    ∀ job ∈ selected, ∀ f ∈ job.outcome.findings, f.failures ≠ [] := by
  intro job hjob
  obtain ⟨e, he, -, w₀, w₁, hrun⟩ := exists_of_mem_right h hjob
  obtain ⟨analyzer, hanalyzer, htimed⟩ := builtin_of_selected he
  obtain ⟨listing, -, hreports⟩ := Analyzer.builtin_reports x hanalyzer
  rw [htimed] at hrun
  have houtcome : (analyzer.run (w.now.run w₀).2).1 = job.outcome :=
    congrArg (fun result => result.1.result) hrun
  rw [← houtcome]
  exact (hreports _).failures_ne_nil

/-- What a phase adds is what its jobs bring. -/
theorem Phase.Takes.findings {p : Phase} (h : p.Takes s t) {f : Finding} (hf : f ∈ t.findings) :
    f ∈ s.findings ∨ ∃ job ∈ p.jobs, f ∈ job.outcome.findings := by
  obtain ⟨order, horder, rfl⟩ := h.eq
  rcases List.mem_append.mp hf with hf | hf
  · exact .inl hf
  · obtain ⟨job, hjob, hmem⟩ := List.mem_flatMap.mp hf
    exact .inr ⟨job, horder.mem_iff.mp hjob, hmem⟩

theorem failures_of_details {findings explained : List Finding}
    (h : List.Forall₂ (fun f f' : Finding => f' = { f with details := f'.details }) findings explained) :
    explained.map Finding.failures = findings.map Finding.failures := by
  induction h with
  | nil => rfl
  | cons hf _ ih => rw [List.map_cons, List.map_cons, ih, hf]

/-- Explanations leave as many findings as there were, and of each of them nothing but the details can be
different. -/
theorem explain_details {e : Option (Explainer (StateM σ))} {outcome : Except ExplainError Unit} {w₀ w₁ : σ}
    (h : (Run.explain e s).run w₀ = ((outcome, t), w₁)) :
    List.Forall₂ (fun f f' : Finding => f' = { f with details := f'.details }) s.findings t.findings := by
  cases e with
  | none =>
    obtain ⟨houtcome, -⟩ := Prod.mk.inj h
    obtain ⟨-, rfl⟩ := Prod.mk.inj houtcome
    exact List.forall₂_same.mpr fun f _ => rfl
  | some e =>
    obtain ⟨reply, explained, w', hpass⟩ := e.exists_pass s.findings w₀
    obtain ⟨houtcome, -⟩ := Prod.mk.inj ((explainAmid_run [] hpass.run).symm.trans h)
    obtain ⟨-, rfl⟩ := Prod.mk.inj houtcome
    show List.Forall₂ _ s.findings (explained ++ [])
    rw [List.append_nil]
    exact hpass.eq_of_details

/-- Without custom analyzers no phase brings an empty finding. -/
theorem Moves.failures_ne_nil {connect : Plugin → StateM σ (Trial Plugin.Reply)} (hplugins : o.plugins = [])
    (h : Moves w x o connect s t) (hs : ∀ f ∈ s.findings, f.failures ≠ []) :
    ∀ f ∈ t.findings, f.failures ≠ [] := by
  intro f hf
  cases h with
  | analysis brought takes =>
    rcases takes.findings hf with hf | ⟨job, hjob, hf⟩
    · exact hs f hf
    · exact failures_ne_nil_of_brought brought job hjob f hf
  | custom answered takes =>
    rcases takes.findings hf with hf | ⟨job, hjob, -⟩
    · exact hs f hf
    · rw [hplugins] at answered
      cases answered
      cases hjob
  | explained run =>
    have hmem : f.failures ∈ _ := List.mem_map_of_mem hf
    rw [failures_of_details (explain_details run)] at hmem
    obtain ⟨g, hg, hfailures⟩ := List.mem_map.mp hmem
    rw [← hfailures]
    exact hs g hg

/-- **No finding of a run is empty.** -/
theorem Reach.failures_ne_nil (hplugins : o.plugins = []) (h : Reach w x o s) :
    ∀ f ∈ s.findings, f.failures ≠ [] := by
  induction h with
  | refl => exact nofun
  | tail _ hmove ih =>
    obtain ⟨connect, hmove⟩ := hmove
    exact hmove.failures_ne_nil hplugins ih

/-! ## 3. The verdict -/

/-- A report of the program is on a store that phases come to, one after another, with custom analyzers
reached by the program's own connector. -/
theorem exists_moves_of_examine {e : Option (Explainer (StateM σ))} {w₀ w₁ : σ} {report : Report}
    (h : (Program.examine w o x e).run w₀ = (.ok report, w₁)) :
    ∃ s provider, Relation.ReflTransGen (Moves w x o (Plugin.Connector.http w).reach) {} s ∧
      report = .ofStore provider s := by
  obtain ⟨selected, custom, s, w₂, hphases, hselected, hcustom, s₁, hfirst, hsecond⟩ :=
    exists_course o (Program.analyzers w x) (Plugin.Connector.http w).reach w₀
  obtain ⟨⟨⟨outcome, t⟩, w₃⟩, hexplain⟩ : ∃ r, (Run.explain e s).run w₂ = r := ⟨_, rfl⟩
  have hexamine : Program.examine w o x e = bothPhases o (Program.analyzers w x) (Plugin.Connector.http w).reach >>=
      fun s => Run.explain e s >>= fun r => Run.finish e >>= fun _ =>
        pure ((r.1.map fun _ => Report.ofStore (Run.provider e) r.2).mapError .explain) := by
    simp only [Program.examine, bothPhases, custom_http, bind_assoc, pure_bind]
  rw [hexamine, run_bind_of_run hphases, run_bind_of_run hexplain] at h
  have hreport : (outcome.map fun _ => Report.ofStore (Run.provider e) t).mapError ProgramError.explain =
      .ok report := congrArg Prod.fst h
  cases outcome with
  | error cause => cases hreport
  | ok _ =>
    have hanalysis : Moves w x o (Plugin.Connector.http w).reach {} s₁ := .analysis hselected hfirst
    have hplugins : Moves w x o (Plugin.Connector.http w).reach s₁ s := .custom hcustom hsecond
    exact ⟨t, _, ((Relation.ReflTransGen.single hanalysis).tail hplugins).tail (.explained hexplain),
      (Except.ok.inj hreport).symm⟩

/-- A report of the program is on a store that a run comes to. -/
theorem exists_reach_of_examine {e : Option (Explainer (StateM σ))} {w₀ w₁ : σ} {report : Report}
    (h : (Program.examine w o x e).run w₀ = (.ok report, w₁)) :
    ∃ s provider, Reach w x o s ∧ report = .ofStore provider s := by
  obtain ⟨s, provider, hmoves, hreport⟩ := exists_moves_of_examine h
  exact ⟨s, provider, .of_moves hmoves, hreport⟩

/-- **Built-in findings are of unhealthy objects, one each, and decide the verdict.** Each built-in analyzer
is held against the list that it fetches: without a list it fails and has no findings; with one its findings
are of some of the listed objects, one by one and in order, each under the name of the analyzer and of its
object and with a failure at least. Only the analyzer of services can fail with findings in its hands. So in
a run without custom analyzers, whatever filters it has, a report is fine exactly if it lists no finding: a
report on any store that phases come to, and any report that the program makes. -/
theorem builtin_findings_decide_the_verdict (w : Surroundings (StateM σ)) (x : Context (StateM σ)) :
    (Analyzer.builtin x).names =
      ["Deployment", "Node", "PersistentVolumeClaim", "Pod", "ReplicaSet", "Service", "Ingress"] ∧
    (∀ name analyzer, (Analyzer.builtin x).find? name = some analyzer →
      ∃ listing, (Analyzer.listings x).find? name = some listing ∧
        ∀ w₀, Analyzer.Reports name (listing.run w₀).1 (analyzer.run w₀).1) ∧
    ∀ o : RunOptions, o.plugins = [] →
      (∀ s, Reach w x o s → ∀ provider,
        (Report.ofStore provider s).verdict = .ok ↔ (Report.ofStore provider s).findings = []) ∧
      ∀ e w₀ w₁ report, (Program.examine w o x e).run w₀ = (.ok report, w₁) →
        (report.verdict = .ok ↔ report.findings = []) := by
  refine ⟨rfl, fun name analyzer h => Analyzer.builtin_reports x h, fun o hplugins => ⟨?_, ?_⟩⟩
  · intro s hreach provider
    exact Report.verdict_eq_ok_iff (hreach.failures_ne_nil hplugins)
  · intro e w₀ w₁ report hrun
    obtain ⟨s, provider, hreach, rfl⟩ := exists_reach_of_examine hrun
    exact Report.verdict_eq_ok_iff (hreach.failures_ne_nil hplugins)

/-- Of two claims one waits for storage, and of the other nothing is known: the run finds the first. -/
theorem a_waiting_claim_is_found :
    let waiting : Datum := .object
      [("metadata", .object [("name", .string "data"), ("namespace", .string "db")]),
        ("status", .object [("phase", .string "Pending")])]
    let claims : Datum := .object [("items", .array [.object [], waiting])]
    let cluster : Cluster.Connection (StateM Unit) :=
      ⟨fun _ => pure (.ok ⟨200, Text.Utf8.encode (Json.compact claims)⟩)⟩
    let w : Surroundings (StateM Unit) :=
      { home := none, userCache := none, workingDirectory := none, colour := false
        send := fun _ => pure none, dial := fun _ => cluster, freshKey := pure .zero, now := pure 0 }
    let x : Context (StateM Unit) := { connection := some cluster }
    let o : RunOptions := { filters := ["PersistentVolumeClaim", "Gateway"] }
    (∃ listing, (Analyzer.listings x).find? "PersistentVolumeClaim" = some listing ∧
      Analyzer.Reports "PersistentVolumeClaim" (listing.run ()).1 ((Analyzer.claim x).run ()).1) ∧
    ∃ report, (Program.examine w o x none).run () = (.ok report, ()) ∧
      report.findings.map Finding.name = ["db/data"] ∧ (report.verdict = .ok ↔ report.findings = []) := by
  intro waiting claims cluster w x o
  obtain ⟨-, hreports, hverdict⟩ := builtin_findings_decide_the_verdict w x
  constructor
  · obtain ⟨listing, hlisting, heach⟩ := hreports "PersistentVolumeClaim" (Analyzer.claim x) rfl
    exact ⟨listing, hlisting, heach ()⟩
  · have hrun : ((Program.examine w o x none).run ()).1.toOption.map (fun r => r.findings.map Finding.name) =
        some ["db/data"] := by decide +kernel
    cases hresult : (Program.examine w o x none).run () with
    | mk result world =>
      rw [hresult] at hrun
      obtain ⟨report, hreport, hnames⟩ := Option.map_eq_some_iff.mp hrun
      cases result with
      | error e => cases hreport
      | ok r =>
        obtain rfl := Option.some.inj hreport
        exact ⟨r, rfl, hnames, (hverdict o rfl).2 none () world r hresult⟩

end Run
end ClusterTriage
