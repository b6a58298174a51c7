import ClusterTriage.Proofs.Analyzer.Naming
import ClusterTriage.Proofs.Analyzer.Services
import ClusterTriage.Proofs.Selection.Listing

/-!
# Findings and the objects they are about

Seven analyzers go through lists of objects, each in its own way: with one condition or several, with an
early exit or none, and the one of services with further questions in between. What they leave has one form
all the same.

> **Each finding is of a listed object, and each object has at most one** (`builtin_reports`): the findings
> of an analyzer go with some of the objects it was given, one by one and in order, and each names its
> object and has a failure.

The list itself is not the business of the inspections, so the analyzers are held against `listings`, where
each of them only fetches what it would look at.
-/

namespace ClusterTriage

/-- How a finding of an analyzer speaks of an object: under its own name and that of the object, which for a
node is the bare one, and with something to say. -/
structure Finding.IsOf (analyzer : String) (d : Cluster.Metadata) (f : Finding) : Prop where
  kind : f.kind = analyzer
  name : f.name = if analyzer = "Node" then d.name.getD "" else d.qualifiedName
  failures : f.failures ≠ []

/-! ## 1. One object -/

namespace Inspection

variable {key : Redaction.Key} {kind : String} {d : Cluster.Metadata} {failures : List Failure}
  {parent : Option String} {f : Finding}

theorem finding?_eq_some (h : finding? kind d failures parent = some f) :
    f.kind = kind ∧ f.name = d.qualifiedName ∧ f.failures ≠ [] := by
  unfold finding? at h
  split at h
  case isTrue => cases h
  case isFalse hne =>
    obtain rfl := Option.some.inj h
    exact ⟨rfl, rfl, mt List.isEmpty_iff.mpr hne⟩

theorem isOf_of_finding? (hkind : kind ≠ "Node") (h : finding? kind d failures parent = some f) :
    f.IsOf kind d := by
  obtain ⟨hk, hname, hfailures⟩ := finding?_eq_some h
  exact ⟨hk, by rw [if_neg hkind, hname], hfailures⟩

namespace Subject

def analyzer : Subject → String
  | pod _ => "Pod"
  | deployment .. => "Deployment"
  | replicaSet _ => "ReplicaSet"
  | service _ => "Service"
  | claim _ => "PersistentVolumeClaim"
  | node _ => "Node"
  | ingress .. => "Ingress"

/-- **What is said of an object names it and is not empty.** -/
theorem isOf (x : Subject) (h : x.inspect key = some f) : f.IsOf x.analyzer x.metadata := by
  cases x with
  | pod p => exact isOf_of_finding? (by simp [analyzer]) h
  | deployment documentation d =>
    simp only [inspect, Inspection.deployment] at h
    split at h
    · cases h
    · exact isOf_of_finding? (by simp [analyzer]) h
  | replicaSet r => exact isOf_of_finding? (by simp [analyzer]) h
  | service s =>
    obtain rfl := Option.some.inj h
    exact ⟨rfl, rfl, List.cons_ne_nil _ _⟩
  | claim c =>
    simp only [inspect, Inspection.claim] at h
    split at h
    · exact isOf_of_finding? (by simp [analyzer]) h
    · cases h
  | node n =>
    -- its namespace is taken away first, so that the qualified name is the bare one
    obtain ⟨hkind, hname, hfailures⟩ := finding?_eq_some h
    exact ⟨hkind, hname, hfailures⟩
  | ingress known i =>
    simp only [inspect, Inspection.ingress] at h
    split at h
    · exact isOf_of_finding? (by simp [analyzer]) h
    · split at h
      · cases h
      · exact isOf_of_finding? (by simp [analyzer]) h

end Subject
end Inspection

/-! ## 2. Many objects -/

namespace Analyzer

open Inspection (Subject)

/-- The findings are of some of the objects, one by one and in order. -/
def Picked (analyzer : String) (objects : List Cluster.Metadata) (findings : List Finding) : Prop :=
  ∃ chosen, chosen.Sublist objects ∧ List.Forall₂ (Finding.IsOf analyzer) chosen findings

variable {α : Type} {name : String} {objects objects' : List Cluster.Metadata}
  {findings : List Finding} {outcome : Outcome}

theorem Picked.mono (h : Picked name objects findings) (hsub : objects.Sublist objects') :
    Picked name objects' findings := by
  obtain ⟨chosen, hchosen, heach⟩ := h
  exact ⟨chosen, hchosen.trans hsub, heach⟩

theorem Picked.failures_ne_nil (h : Picked name objects findings) : ∀ f ∈ findings, f.failures ≠ [] := by
  obtain ⟨chosen, -, heach⟩ := h
  induction heach with
  | nil => exact nofun
  | cons hf _ ih => exact List.forall_mem_cons.mpr ⟨hf.failures, ih⟩

/-- Inspecting objects one by one picks some of them. -/
theorem picked_filterMap {metadata : α → Cluster.Metadata} {inspect : α → Option Finding}
    (h : ∀ a f, inspect a = some f → f.IsOf name (metadata a)) (l : List α) :
    Picked name (l.map metadata) (l.filterMap inspect) := by
  induction l with
  | nil => exact ⟨[], .slnil, .nil⟩
  | cons a rest ih =>
    obtain ⟨chosen, hchosen, heach⟩ := ih
    rw [List.map_cons]
    cases ha : inspect a with
    | none =>
      rw [List.filterMap_cons_none ha]
      exact ⟨chosen, hchosen.cons _, heach⟩
    | some f =>
      rw [List.filterMap_cons_some ha]
      exact ⟨metadata a :: chosen, hchosen.cons_cons _, .cons (h a f ha) heach⟩

/-- What comes of an analyzer, by what came of its list: without a list it has nothing to say, and with one
its findings are picked from it. Only the analyzer of services can fail with findings in its hands. -/
inductive Reports (name : String) : Except AnalyzerError (List Cluster.Metadata) → Outcome → Prop
  | unlisted {cause : AnalyzerError} (h : Outcome.findings (.error cause) = []) :
      Reports name (.error cause) (.error cause)
  | finished {objects : List Cluster.Metadata} {findings : List Finding}
      (h : Picked name objects findings) : Reports name (.ok objects) (.ok findings)
  | interrupted {objects : List Cluster.Metadata} {findings : List Finding} {cause : AnalyzerError}
      (hname : name = "Service") (h : Picked name objects findings) :
      Reports name (.ok objects) (.error (.interrupted findings cause))

theorem Reports.failures_ne_nil {listed : Except AnalyzerError (List Cluster.Metadata)}
    (h : Reports name listed outcome) : ∀ f ∈ outcome.findings, f.failures ≠ [] := by
  cases h with
  | unlisted hnone =>
    rw [hnone]
    exact nofun
  | finished h => exact h.failures_ne_nil
  | interrupted _ h => exact h.failures_ne_nil

/-! ## 3. The analyzers -/

section

variable {m : Type → Type} [Monad m] (x : Context m)

/-- Fetches the objects of a kind, and does not look at them. -/
def fetch (list : m (Except AnalyzerError (List α))) (metadata : α → Cluster.Metadata) :
    m (Except AnalyzerError (List Cluster.Metadata)) := do
  return (← list).map (·.map metadata)

/-- What each of the built-in analyzers is given to look at. -/
def listings : Registry (m (Except AnalyzerError (List Cluster.Metadata))) :=
  ({} : Registry (m (Except AnalyzerError (List Cluster.Metadata))))
    |>.withCore "Pod" (fetch (x.list .pod) (·.metadata))
    |>.withCore "Deployment" (fetch (x.list .deployment) (·.metadata))
    |>.withCore "ReplicaSet" (fetch (x.list .replicaSet) (·.metadata))
    |>.withCore "Service" (fetch (x.list .service) (·.metadata))
    |>.withCore "PersistentVolumeClaim" (fetch (x.list .claim) (·.metadata))
    |>.withCore "Node" (fetch (x.listIn .node none x.selector) (·.metadata))
    |>.withAdditional "Ingress" (do
      match ← x.listIn .ingressClass none none with
      | .error e => return .error e
      | .ok _ => fetch (x.list .ingress) (·.metadata))

end

variable {σ : Type} (x : Context (StateM σ)) {k : Cluster.Kind α} {space selector : Option String} {w : σ}

/-- Whoever cannot list has nothing to say. -/
theorem findings_of_listIn_error {cause : AnalyzerError}
    (h : ((x.listIn k space selector).run w).1 = .error cause) :
    Outcome.findings (.error cause) = [] := by
  unfold Context.listIn Context.ask at h
  cases hconnection : x.connection with
  | none =>
    rw [hconnection] at h
    obtain rfl := Except.error.inj h
    rfl
  | some c =>
    rw [hconnection] at h
    change (((c.get k.listOfDatum? _).run w).1.mapError AnalyzerError.cluster) = .error cause at h
    cases hreply : ((c.get k.listOfDatum? _).run w).1 with
    | ok l =>
      rw [hreply] at h
      cases h
    | error e =>
      rw [hreply] at h
      obtain rfl := Except.error.inj h
      rfl

theorem reports_fetch {metadata : α → Cluster.Metadata} {inspect : α → Option Finding}
    (h : ∀ a f, inspect a = some f → f.IsOf name (metadata a)) (w : σ) :
    Reports name ((fetch (x.listIn k space selector) metadata).run w).1
      ((do return (← x.listIn k space selector).map (·.filterMap inspect) : StateM σ Outcome).run w).1 := by
  show Reports name (((x.listIn k space selector).run w).1.map _) (((x.listIn k space selector).run w).1.map _)
  cases hlist : ((x.listIn k space selector).run w).1 with
  | error cause => exact .unlisted (findings_of_listIn_error x hlist)
  | ok l => exact .finished (picked_filterMap h l)

/-- The lookups that came to a finding are of listed services. -/
theorem Ending.picked {key : Redaction.Key} {list : List Cluster.Service} {looked : List Lookup}
    {errors : List String} (h : Ending key [] (list.filter selects) looked outcome errors) :
    Reports "Service" (.ok (list.map (·.metadata))) outcome := by
  have hof (l : Lookup) (f : Finding) (hf : l.finding? key = some f) :
      f.IsOf "Service" l.service.metadata := by
    refine (Subject.service l.service).isOf (?_ : some (Inspection.service key l.service) = some f)
    unfold Lookup.finding? at hf
    split at hf
    · exact hf
    · exact (Option.ite_none_right_eq_some.mp hf).2
    · cases hf
  have hsub : ((list.filter selects).map (·.metadata)).Sublist (list.map (·.metadata)) :=
    List.filter_sublist.map _
  generalize list.filter selects = selected at h hsub
  cases h with
  | finished _ =>
    refine .finished ((picked_filterMap hof looked).mono ?_)
    rwa [List.map_map] at hsub
  | @failed before s cause rest _ =>
    refine .interrupted rfl ((picked_filterMap hof before).mono ?_)
    rw [List.map_append, List.map_map] at hsub
    exact (List.sublist_append_left _ _).trans hsub

theorem reports_service (w : σ) :
    Reports "Service" ((fetch (x.list .service) (·.metadata)).run w).1 ((service x).run w).1 := by
  cases hlist : (x.list .service).run w with
  | mk listed w₁ =>
    have hfetch : (fetch (x.list .service) (·.metadata)).run w = (listed.map (·.map (·.metadata)), w₁) :=
      run_bind_of_run hlist
    rw [hfetch, service, run_bind_of_run hlist]
    cases listed with
    | error cause => exact .unlisted (findings_of_listIn_error x (congrArg Prod.fst hlist))
    | ok l =>
      obtain ⟨looked, outcome, errors, w', -, hend, hrun, -⟩ := services_end x l [] w₁
      show Reports "Service" _ ((services x [] l).run w₁).1
      rw [hrun]
      exact hend.picked

theorem reports_ingress (w : σ) :
    Reports "Ingress" ((do
      match ← x.listIn .ingressClass none none with
      | .error e => return .error e
      | .ok _ => fetch (x.list .ingress) (·.metadata) : StateM σ _).run w).1 ((ingress x).run w).1 := by
  cases hlist : (x.listIn .ingressClass none none).run w with
  | mk listed w₁ =>
    rw [ingress, run_bind_of_run hlist, run_bind_of_run hlist]
    cases listed with
    | error cause => exact .unlisted (findings_of_listIn_error x (congrArg Prod.fst hlist))
    | ok classes => exact reports_fetch x (fun i f => (Subject.ingress _ i).isOf) w₁

/-- A built-in analyzer under its name. -/
inductive Builtin (x : Context (StateM σ)) : String → StateM σ Outcome → Prop
  | pod : Builtin x "Pod" (Analyzer.pod x)
  | deployment : Builtin x "Deployment" (Analyzer.deployment x)
  | replicaSet : Builtin x "ReplicaSet" (Analyzer.replicaSet x)
  | service : Builtin x "Service" (Analyzer.service x)
  | claim : Builtin x "PersistentVolumeClaim" (Analyzer.claim x)
  | node : Builtin x "Node" (Analyzer.node x)
  | ingress : Builtin x "Ingress" (Analyzer.ingress x)

theorem builtin_of_find? {analyzer : StateM σ Outcome} (h : (builtin x).find? name = some analyzer) :
    Builtin x name analyzer := by
  obtain ⟨rfl, rfl⟩ | h := Registry.of_find?_withAdditional h
  · exact .ingress
  obtain ⟨rfl, rfl⟩ | h := Registry.of_find?_withCore h
  · exact .node
  obtain ⟨rfl, rfl⟩ | h := Registry.of_find?_withCore h
  · exact .claim
  obtain ⟨rfl, rfl⟩ | h := Registry.of_find?_withCore h
  · exact .service
  obtain ⟨rfl, rfl⟩ | h := Registry.of_find?_withCore h
  · exact .replicaSet
  obtain ⟨rfl, rfl⟩ | h := Registry.of_find?_withCore h
  · exact .deployment
  obtain ⟨rfl, rfl⟩ | h := Registry.of_find?_withCore h
  · exact .pod
  · cases h

/-- **Each finding is of a listed object, and each object has at most one.** -/
theorem builtin_reports {analyzer : StateM σ Outcome} (h : (builtin x).find? name = some analyzer) :
    ∃ listing, (listings x).find? name = some listing ∧
      ∀ w, Reports name (listing.run w).1 (analyzer.run w).1 := by
  cases builtin_of_find? x h with
  | pod => exact ⟨_, rfl, reports_fetch x fun p f => (Subject.pod p).isOf⟩
  | deployment => exact ⟨_, rfl, reports_fetch x fun d f => (Subject.deployment _ d).isOf⟩
  | replicaSet => exact ⟨_, rfl, reports_fetch x fun r f => (Subject.replicaSet r).isOf⟩
  | service => exact ⟨_, rfl, reports_service x⟩
  | claim => exact ⟨_, rfl, reports_fetch x fun c f => (Subject.claim c).isOf⟩
  | node => exact ⟨_, rfl, reports_fetch x fun n f => (Subject.node n).isOf⟩
  | ingress => exact ⟨_, rfl, reports_ingress x⟩

end Analyzer
end ClusterTriage
