import ClusterTriage.Proofs.Explanation.Observed
import Mathlib.Data.List.Forall2

/-!
# Going over findings

`Explainer.explain` goes over findings one after another, and everything that can differ from one
explainer to the next is in `Explainer.answer`: caches that fail, caches that are switched off,
completers of any kind. What is left is a walk with four cases, and `Pass` is that walk.

> **An explanation is a pass and nothing else is** (`pass_iff`).

So a statement about every explainer there can be is an induction over `Pass`, and of an answer it
needs to know only whether it came. `Pass.goneOver` and `Pass.stopped` say what the walk leaves, by
how it ends.
-/

namespace ClusterTriage

/-- What becomes of a finding that an explainer went over: with failures it has details afterwards and
is otherwise the same, without it is the same altogether. -/
inductive Finding.GoneOver : Finding → Finding → Prop where
  | clean {f : Finding} (h : f.hasFailures = false) : GoneOver f f
  | explained {f : Finding} (h : f.hasFailures = true) (details : String) :
      GoneOver f { f with details := some details }

namespace Explainer

variable {σ : Type} {x : Explainer (StateM σ)} {w w' w₁ : σ} {f : Finding}
  {rest rest' findings findings' : List Finding} {outcome : Except ExplainError Unit}
  {answer : String} {e : ExplainError}

/-- What stands for a finding when it is explained: the texts of its failures with a blank between them,
each with its own names masked if names are masked at all. -/
def wording (x : Explainer (StateM σ)) (f : Finding) : String :=
  " ".intercalate (f.failures.map fun g => if x.anonymize then Redaction.mask g.sensitive g.text else g.text)

abbrev answerTo (x : Explainer (StateM σ)) (f : Finding) : StateM σ (Except ExplainError String) :=
  x.answer f.kind (x.wording f)

/-- A finding with an answer to it: the answer as it came or, where names are masked, with the masks of
all its failures taken off. -/
def explained (x : Explainer (StateM σ)) (f : Finding) (answer : String) : Finding :=
  { f with
    details := some
      (if x.anonymize then Redaction.unmask (f.failures.flatMap Failure.sensitive) answer else answer) }

/-- A walk over findings, from one world to another. -/
inductive Pass (x : Explainer (StateM σ)) :
    σ → List Finding → Except ExplainError Unit → List Finding → σ → Prop where
  | done (w : σ) : Pass x w [] (.ok ()) [] w
  | clean {w w' : σ} {f : Finding} {rest rest' : List Finding} {outcome : Except ExplainError Unit}
      (h : f.hasFailures = false) (next : Pass x w rest outcome rest' w') :
      Pass x w (f :: rest) outcome (f :: rest') w'
  | answered {w w₁ w' : σ} {f : Finding} {rest rest' : List Finding}
      {outcome : Except ExplainError Unit} {answer : String} (h : f.hasFailures = true)
      (came : (x.answerTo f).run w = (.ok answer, w₁)) (next : Pass x w₁ rest outcome rest' w') :
      Pass x w (f :: rest) outcome (x.explained f answer :: rest') w'
  | refused {w w' : σ} {f : Finding} {rest : List Finding} {e : ExplainError}
      (h : f.hasFailures = true) (failed : (x.answerTo f).run w = (.error e, w')) :
      Pass x w (f :: rest) (.error e) (f :: rest) w'

/-! ## 1. What an explanation does with the first finding -/

theorem explain_clean (hf : f.hasFailures = false)
    (h : (x.explain rest).run w = ((outcome, rest'), w')) :
    (x.explain (f :: rest)).run w = ((outcome, f :: rest'), w') := by
  unfold explain
  rw [if_neg (by simp [hf])]
  exact run_bind_of_run h

theorem explain_answered (hf : f.hasFailures = true)
    (hanswer : (x.answerTo f).run w = (.ok answer, w₁))
    (h : (x.explain rest).run w₁ = ((outcome, rest'), w')) :
    (x.explain (f :: rest)).run w = ((outcome, x.explained f answer :: rest'), w') := by
  unfold explain
  rw [if_pos hf]
  exact (run_bind_of_run hanswer).trans (run_bind_of_run h)

theorem explain_refused (hf : f.hasFailures = true)
    (hanswer : (x.answerTo f).run w = (.error e, w')) :
    (x.explain (f :: rest)).run w = ((.error e, f :: rest), w') := by
  unfold explain
  rw [if_pos hf]
  exact run_bind_of_run hanswer

/-! ## 2. An explanation is a pass -/

theorem Pass.run (h : Pass x w findings outcome findings' w') :
    (x.explain findings).run w = ((outcome, findings'), w') := by
  induction h with
  | done w => rfl
  | clean hf _ ih => exact explain_clean hf ih
  | answered hf came _ ih => exact explain_answered hf came ih
  | refused hf failed => exact explain_refused hf failed

theorem exists_pass (x : Explainer (StateM σ)) (findings : List Finding) (w : σ) :
    ∃ outcome findings' w', Pass x w findings outcome findings' w' := by
  induction findings generalizing w with
  | nil => exact ⟨.ok (), [], w, .done w⟩
  | cons f rest ih =>
    cases hf : f.hasFailures with
    | false =>
      obtain ⟨outcome, rest', w', hpass⟩ := ih w
      exact ⟨outcome, f :: rest', w', .clean hf hpass⟩
    | true =>
      cases hanswer : (x.answerTo f).run w with
      | mk reply w₁ =>
        cases reply with
        | error e => exact ⟨.error e, f :: rest, w₁, .refused hf hanswer⟩
        | ok answer =>
          obtain ⟨outcome, rest', w', hpass⟩ := ih w₁
          exact ⟨outcome, x.explained f answer :: rest', w', .answered hf hanswer hpass⟩

/-- **An explanation is a pass and nothing else is.** -/
theorem pass_iff : Pass x w findings outcome findings' w' ↔
    (x.explain findings).run w = ((outcome, findings'), w') := by
  constructor
  · intro h
    exact h.run
  · intro h
    obtain ⟨outcome₁, findings₁, w₁, hpass⟩ := exists_pass x findings w
    have hrun := hpass.run
    rw [h] at hrun
    cases hrun
    exact hpass

/-! ## 3. What a pass leaves -/

/-- A pass to the end has gone over every finding. -/
theorem Pass.goneOver (h : Pass x w findings outcome findings' w') (hok : outcome = .ok ()) :
    List.Forall₂ Finding.GoneOver findings findings' := by
  induction h with
  | done w => exact .nil
  | clean hf _ ih => exact .cons (.clean hf) (ih hok)
  | answered hf _ _ ih => exact .cons (.explained hf _) (ih hok)
  | refused => cases hok

/-- A pass that failed went over the findings before the one it failed at, as a pass to the end of
those does, and did not touch the others. -/
theorem Pass.stopped (h : Pass x w findings outcome findings' w') (herror : outcome = .error e) :
    ∃ done f rest done' w₁, findings = done ++ f :: rest ∧ findings' = done' ++ f :: rest ∧
      Pass x w done (.ok ()) done' w₁ ∧ f.hasFailures = true ∧
      (x.answerTo f).run w₁ = (.error e, w') := by
  induction h with
  | done w => cases herror
  | clean hf _ ih =>
    obtain ⟨done, g, rest, done', w₁, rfl, rfl, hdone, hg, hfailed⟩ := ih herror
    exact ⟨_ :: done, g, rest, _ :: done', w₁, rfl, rfl, .clean hf hdone, hg, hfailed⟩
  | answered hf came _ ih =>
    obtain ⟨done, g, rest, done', w₁, rfl, rfl, hdone, hg, hfailed⟩ := ih herror
    exact ⟨_ :: done, g, rest, _ :: done', w₁, rfl, rfl, .answered hf came hdone, hg, hfailed⟩
  | refused hf failed =>
    cases herror
    exact ⟨[], _, _, [], _, rfl, rfl, .done _, hf, failed⟩

/-- However a pass ends, it leaves as many findings as there were, in their order, and of each of them
nothing but the details can be different. -/
theorem Pass.eq_of_details (h : Pass x w findings outcome findings' w') :
    List.Forall₂ (fun f f' => f' = { f with details := f'.details }) findings findings' := by
  induction h with
  | done w => exact .nil
  | clean _ _ ih => exact .cons rfl ih
  | answered _ _ _ ih => exact .cons rfl ih
  | refused => exact List.forall₂_same.mpr fun f _ => rfl

end Explainer
end ClusterTriage
