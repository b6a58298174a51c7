import ClusterTriage.Proofs.Explanation.Pass
import ClusterTriage.Run.Phases

/-!
# The store of a run while findings are explained

For the phase of explanations the findings leave the store, and nothing keeps others from putting
more into it before they are back. Two things could go wrong: the explainer could fail and take the
findings with it, and what came in meanwhile could be overwritten or end up in front.

> **The store gets everything back**: the findings that it had, in their places, and after them what
> came in; and the errors and timings only ever grow (`explain_keeps_the_store`).
-/

namespace ClusterTriage

/-! ## 1. What others put into a store -/

namespace Store

def Addition.findings : Addition → List Finding
  | .outcome _ brought _ => brought.findings
  | .error _ => []
  | .finding f => [f]

def Addition.errors : Addition → List String
  | .outcome name brought _ => brought.errors name
  | .error message => [message]
  | .finding _ => []

def Addition.timings : Addition → List Timing
  | .outcome name _ elapsed => elapsed.toList.map fun n => ⟨name, n⟩
  | .error _ => []
  | .finding _ => []

theorem add_eq (s : Store) (a : Addition) :
    s.add a = ⟨s.findings ++ a.findings, s.errors ++ a.errors, s.timings ++ a.timings⟩ := by
  cases a with
  | outcome name brought elapsed => rfl
  | error message => simp [add, pushError, Addition.findings, Addition.errors, Addition.timings]
  | finding f => simp [add, pushFinding, Addition.findings, Addition.errors, Addition.timings]

/-- Additions append their shares, in their order. -/
theorem addAll_eq (s : Store) (additions : List Addition) :
    s.addAll additions =
      { findings := s.findings ++ additions.flatMap Addition.findings
        errors := s.errors ++ additions.flatMap Addition.errors
        timings := s.timings ++ additions.flatMap Addition.timings } := by
  induction additions generalizing s with
  | nil => simp [addAll]
  | cons a rest ih =>
    rw [addAll, List.foldl_cons, ← addAll, ih, add_eq]
    simp [List.append_assoc]

end Store

/-! ## 2. The phase of explanations -/

namespace Run

variable {σ : Type} {x : Explainer (StateM σ)} {w w' : σ} {s : Store} {explained : List Finding}
  {outcome : Except ExplainError Unit}

theorem explainAmid_run (additions : List Store.Addition)
    (h : (x.explain s.findings).run w = ((outcome, explained), w')) :
    (explainAmid additions (some x) s).run w =
      ((outcome,
        { findings := explained ++ additions.flatMap Store.Addition.findings
          errors := s.errors ++ additions.flatMap Store.Addition.errors
          timings := s.timings ++ additions.flatMap Store.Addition.timings }), w') := by
  refine (run_bind_of_run h).trans ?_
  show ((outcome, (({ s with findings := [] } : Store).addAll additions).restoreFindings explained),
    w') = _
  rw [Store.addAll_eq]
  rfl

/-- **The store gets everything back.** An explainer of any kind goes over the findings of a store
while others put in what they like. Afterwards the store has its findings in their places, different
at most in their details, and after them what came in; errors and timings are those it had and those
that came in. If all is explained, every finding with failures has details and no other is touched.
If the explainer failed, it did so at a finding with failures: those before are what they are when
only they are explained, and that one and all after it are as they were. -/
theorem explain_keeps_the_store (x : Explainer (StateM σ)) (additions : List Store.Addition)
    (s : Store) (w : σ) :
    ∃ outcome s' w' explained,
      (explainAmid additions (some x) s).run w = ((outcome, s'), w') ∧
      s'.findings = explained ++ additions.flatMap Store.Addition.findings ∧
      s'.errors = s.errors ++ additions.flatMap Store.Addition.errors ∧
      s'.timings = s.timings ++ additions.flatMap Store.Addition.timings ∧
      List.Forall₂ (fun f f' => f' = { f with details := f'.details }) s.findings explained ∧
      (outcome = .ok () → List.Forall₂ Finding.GoneOver s.findings explained) ∧
      (∀ e, outcome = .error e → ∃ done f rest done' w₁,
        s.findings = done ++ f :: rest ∧ explained = done' ++ f :: rest ∧
        (x.explain done).run w = ((.ok (), done'), w₁) ∧
        List.Forall₂ Finding.GoneOver done done' ∧
        f.hasFailures = true ∧ (x.answerTo f).run w₁ = (.error e, w')) := by
  obtain ⟨outcome, explained, w', hpass⟩ := x.exists_pass s.findings w
  refine ⟨outcome, _, w', explained, explainAmid_run additions hpass.run, rfl, rfl, rfl,
    hpass.eq_of_details, hpass.goneOver, ?_⟩
  intro e herror
  obtain ⟨done, f, rest, done', w₁, hbefore, hafter, hdone, hf, hfailed⟩ := hpass.stopped herror
  exact ⟨done, f, rest, done', w₁, hbefore, hafter, hdone.run, hdone.goneOver rfl, hf, hfailed⟩

end Run
end ClusterTriage
