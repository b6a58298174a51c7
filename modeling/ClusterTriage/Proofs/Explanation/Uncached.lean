import ClusterTriage.Explanation.Provider
import ClusterTriage.Proofs.Explanation.Provenance

/-!
# Explanations with and without a cache

A cache is there to save calls. If a completer gives the same reply whenever it is given the same
prompt, it should make no difference to what is explained and how. It makes none where findings with
the same text have the same prompt:

> **A cached explanation is a plain one** (`cached_explanations_are_plain`), finding by finding, and it
> ends where the plain one ends.

But the prompt is made from the template of the kind, and the key is not. So a finding whose text was
explained before has the explanation that was asked for with the template of another kind
(`a_kind_gets_the_answer_of_another`).
-/

namespace ClusterTriage
namespace Explainer

variable {σ : Type} {view : σ → String → Option String} {x : Explainer (StateM σ)}
  {reply : Finding → Except CompletionError String} {f : Finding} {rest findings findings' : List Finding}
  {answer : String} {cause : CompletionError} {outcome : Except ExplainError Unit}

/-- The same explainer with its cache switched off. -/
def uncached (x : Explainer (StateM σ)) : Explainer (StateM σ) :=
  { x with cache := { x.cache with disabled := true } }

/-- Findings explained by replies that depend on the finding alone. -/
def explainBy (x : Explainer (StateM σ)) (reply : Finding → Except CompletionError String) :
    List Finding → Except ExplainError Unit × List Finding
  | [] => (.ok (), [])
  | f :: rest =>
    if f.hasFailures then
      match reply f with
      | .error cause => (.error (.classify x.completer.name cause), f :: rest)
      | .ok answer => ((x.explainBy reply rest).1, x.explained f answer :: (x.explainBy reply rest).2)
    else ((x.explainBy reply rest).1, f :: (x.explainBy reply rest).2)

theorem explainBy_clean (hf : f.hasFailures = false) (h : (outcome, findings') = x.explainBy reply rest) :
    (outcome, f :: findings') = x.explainBy reply (f :: rest) := by
  rw [explainBy, if_neg (by simp [hf]), ← h]

theorem explainBy_ok (hf : f.hasFailures = true) (hreply : reply f = .ok answer)
    (h : (outcome, findings') = x.explainBy reply rest) :
    (outcome, x.explained f answer :: findings') = x.explainBy reply (f :: rest) := by
  rw [explainBy, if_pos hf, hreply, ← h]

theorem explainBy_error (hf : f.hasFailures = true) (hreply : reply f = .error cause) :
    (.error (.classify x.completer.name cause), f :: rest) = x.explainBy reply (f :: rest) := by
  rw [explainBy, if_pos hf, hreply]

/-! ## 1. Without a cache -/

/-- Without a cache, the answer to a finding is the reply to its prompt. -/
theorem uncached_answerTo (x : Explainer (StateM σ)) (f : Finding) (w : σ) :
    (x.uncached.answerTo f).run w =
      (x.ofReply ((x.completer.ask (x.promptFor f)).run w).1,
        ((x.completer.ask (x.promptFor f)).run w).2) := by
  have hnothing : (x.uncached.cached? (x.keyOf f)).run w = (none, w) := rfl
  cases hreply : (x.completer.ask (x.promptFor f)).run w with
  | mk reply w' =>
    refine (run_bind_of_run hnothing).trans ((run_bind_of_run hreply).trans ?_)
    cases reply with
    | error cause => rfl
    | ok answer => rfl

theorem Pass.eq_explainBy {w w' : σ} (h : Pass x.uncached w findings outcome findings' w')
    (hreply : ∀ f w, ((x.completer.ask (x.promptFor f)).run w).1 = reply f) :
    (outcome, findings') = x.explainBy reply findings := by
  induction h with
  | done => rfl
  | clean hf _ ih => exact explainBy_clean hf ih
  | @answered w w₁ w' f rest rest' outcome answer hf came _ ih =>
    rw [uncached_answerTo, hreply] at came
    cases hf' : reply f with
    | error cause =>
      rw [hf'] at came
      cases came
    | ok answer' =>
      rw [hf'] at came
      cases came
      exact explainBy_ok hf hf' ih
  | @refused w w' f rest e hf failed =>
    rw [uncached_answerTo, hreply] at failed
    cases hf' : reply f with
    | error cause =>
      rw [hf'] at failed
      cases failed
      exact explainBy_error hf hf'
    | ok answer =>
      rw [hf'] at failed
      cases failed

/-! ## 2. With a cache -/

/-- If equal requests have equal replies, it makes no difference whose reply is recalled. -/
theorem Sourced.eq_explainBy {past made : List (Asked σ)}
    (h : Sourced (· = ·) x past findings made outcome findings')
    (hreply : ∀ f r, x.Replies f r → r = reply f)
    (hsame : ∀ f ∈ findings, ∀ g ∈ findings, f.hasFailures = true → g.hasFailures = true →
      x.request f = x.request g → reply f = reply g)
    (hpast : ∀ a ∈ past, ∀ f ∈ findings, f.hasFailures = true → a.request = x.request f →
      a.reply = reply f) :
    (outcome, findings') = x.explainBy reply findings := by
  induction h with
  | done => rfl
  | clean hf _ ih =>
    refine explainBy_clean hf (ih ?_ ?_)
    · exact fun f hf g hg => hsame f (.tail _ hf) g (.tail _ hg)
    · exact fun a ha f hf => hpast a ha f (.tail _ hf)
  | recalled hf known related given _ ih =>
    refine explainBy_ok hf ((hpast _ known _ (.head _) hf related).symm.trans given) (ih ?_ ?_)
    · exact fun f hf g hg => hsame f (.tail _ hf) g (.tail _ hg)
    · exact fun a ha f hf => hpast a ha f (.tail _ hf)
  | @asked past made f rest rest' outcome answer hf given _ ih =>
    refine explainBy_ok hf (hreply f _ given).symm (ih ?_ ?_)
    · exact fun f hf g hg => hsame f (.tail _ hf) g (.tail _ hg)
    · intro a ha g hg hfailing hrequest
      rcases List.mem_append.mp ha with ha | ha
      · exact hpast a ha g (.tail _ hg) hfailing hrequest
      · obtain rfl := List.mem_singleton.mp ha
        exact (hreply f _ given).trans (hsame f (.head _) g (.tail _ hg) hf hfailing hrequest)
  | refused hf given => exact explainBy_error hf (hreply _ _ given).symm

/-- A finding is as it was or has the reply to a call that asked for the same. -/
theorem Sourced.attached {past made : List (Asked σ)}
    (h : Sourced (· = ·) x past findings made outcome findings') :
    List.Forall₂ (fun f f' => f' = f ∨ ∃ a ∈ past ++ made, ∃ answer, a.request = x.request f ∧
      a.reply = .ok answer ∧ f' = x.explained f answer) findings findings' := by
  induction h with
  | done => exact .nil
  | clean hf _ ih => exact .cons (.inl rfl) ih
  | recalled hf known related given _ ih =>
    exact .cons (.inr ⟨_, List.mem_append_left _ known, _, related, given, rfl⟩) ih
  | asked hf given _ ih =>
    refine .cons (.inr ⟨_, List.mem_append_right _ (.head _), _, rfl, rfl, rfl⟩) ?_
    rwa [List.append_assoc] at ih
  | refused hf given =>
    exact .cons (.inl rfl) (List.forall₂_same.mpr fun f _ => .inl rfl)

/-! ## 3. Both -/

/-- An explainer that has a cache to itself recalls an answer for the same request only. -/
theorem explain_run_sourced {w : σ} (hx : x.Truthful view) (hempty : ∀ key, view w key = none)
    (hdigest : CollisionFree
      (((findings.filter Finding.hasFailures).map x.request).map Request.subject)) :
    ∃ outcome findings' made w', (x.explain findings).run w = ((outcome, findings'), w') ∧
      Sourced (· = ·) x [] findings made outcome findings' := by
  obtain ⟨outcome, findings', made, o, hrun, -, hstory⟩ :=
    explain_sourced hx findings (Books.empty hempty)
  refine ⟨outcome, findings', made, o.world, (x.observed_explain findings).unwatched hrun, ?_⟩
  refine hstory.imp (P := (· ∈ (findings.filter Finding.hasFailures).map x.request)) ?_
    (fun a ha => by cases ha)
    fun f hf hfailing => List.mem_map_of_mem (List.mem_filter.mpr ⟨hf, hfailing⟩)
  intro r r' hr hr' hkey
  have hsubject := (Request.key_eq_iff hdigest hr hr').mp hkey
  -- one explainer has one provider and one language
  obtain ⟨f, -, rfl⟩ := List.mem_map.mp hr
  obtain ⟨g, -, rfl⟩ := List.mem_map.mp hr'
  exact Request.eq_of_subject_eq_of_same rfl rfl hsubject

/-- **A cached explanation is a plain one.** A completer that is a function of the prompt, and a cache
that was empty and makes nothing up, though it may fail and forget. If no two of the texts that stand
for requests have the same digest, then every finding is as it was or has the reply to the prompt of a
finding with the same text. And if findings with the same text have the same prompt, then whatever
beginning of the list is explained, it is explained as without the cache: with the replies to the
prompts of the findings themselves, up to the same finding and with the same error. -/
theorem cached_explanations_are_plain (x : Explainer (StateM σ))
    (client : String → Except CompletionError String) (findings : List Finding) (w v : σ)
    (hx : x.Truthful view) (hempty : ∀ key, view w key = none)
    (hclient : ∀ prompt w, ((x.completer.ask prompt).run w).1 = client prompt)
    (hdigest : CollisionFree
      (((findings.filter Finding.hasFailures).map x.request).map Request.subject)) :
    List.Forall₂ (fun f f' => f' = f ∨ ∃ g ∈ findings, g.hasFailures = true ∧
        x.request g = x.request f ∧ ∃ answer, client (x.promptFor g) = .ok answer ∧
        f' = x.explained f answer)
      findings ((x.explain findings).run w).1.2 ∧
    ((∀ f ∈ findings, ∀ g ∈ findings, f.hasFailures = true → g.hasFailures = true →
        x.request f = x.request g → x.promptFor f = x.promptFor g) →
      ∀ n, ((x.explain (findings.take n)).run w).1 =
          x.explainBy (fun f => client (x.promptFor f)) (findings.take n) ∧
        ((x.uncached.explain (findings.take n)).run v).1 =
          x.explainBy (fun f => client (x.promptFor f)) (findings.take n)) := by
  have hreply : ∀ f r, x.Replies f r → r = client (x.promptFor f) := by
    rintro f _ ⟨w, rfl⟩
    exact hclient _ w
  constructor
  · obtain ⟨outcome, findings', made, w', hrun, hstory⟩ := explain_run_sourced hx hempty hdigest
    rw [hrun]
    refine hstory.attached.imp ?_
    rintro f f' (hsame | ⟨a, ha, answer, hrequest, hanswer, hf'⟩)
    · exact .inl hsame
    · obtain ⟨g, hg, reply, hfailing, rfl, hreplies⟩ := hstory.of_mem ha
      exact .inr ⟨g, hg, hfailing, hrequest, answer, (hreply g reply hreplies).symm.trans hanswer, hf'⟩
  · intro hprompts n
    have hbeginning : ∀ f ∈ findings.take n, f ∈ findings := fun f hf => List.mem_of_mem_take hf
    constructor
    · have hfewer : CollisionFree
          ((((findings.take n).filter Finding.hasFailures).map x.request).map Request.subject) :=
        hdigest.mono ((((List.take_sublist n findings).filter _).map _).map _).subset
      obtain ⟨outcome, findings', made, w', hrun, hstory⟩ := explain_run_sourced hx hempty hfewer
      rw [hrun]
      refine hstory.eq_explainBy hreply ?_ (fun a ha => by cases ha)
      intro f hf g hg hffailing hgfailing hrequest
      exact congrArg client
        (hprompts f (hbeginning f hf) g (hbeginning g hg) hffailing hgfailing hrequest)
    · obtain ⟨outcome, findings', v', hpass⟩ := x.uncached.exists_pass (findings.take n) v
      rw [hpass.run]
      exact hpass.eq_explainBy fun f w => hclient (x.promptFor f) w

/-- A completer that refuses prompts about networks and repeats the others. Two pods have the same
problem, and the node that comes before the service has none. -/
theorem cached_explanations_of_crashes_are_plain :
    let client : String → Except CompletionError String := fun prompt =>
      if Text.containsString prompt "network" then .error (.refused 429 "slow down")
      else .ok ("repeated: " ++ prompt)
    let x : Explainer (StateM (MemoryCache × Nat)) :=
      { completer :=
          { name := "openai"
            ask := fun prompt => modifyGetThe (MemoryCache × Nat) fun w =>
              (client prompt, (w.1, w.2 + 1))
            close := return () }
        cache := MemoryCache.cache false
        templates := ⟨(NameMap.empty.insert "default" "\x7bfailures\x7d").insert "Service"
          "service: \x7bfailures\x7d"⟩ }
    let view : MemoryCache × Nat → String → Option String := fun w => w.1.find?
    let pod (name : String) : Finding := { kind := "Pod", name, failures := [⟨"crash", [], none⟩] }
    let service : Finding := { kind := "Service", name := "web", failures := [⟨"no network", [], none⟩] }
    let findings := [pod "web", { kind := "Node", name := "a1" }, pod "api", service, pod "db"]
    let w : MemoryCache × Nat := ({}, 0)
    let alike := ∀ f ∈ findings, ∀ g ∈ findings, f.hasFailures = true → g.hasFailures = true →
      x.request f = x.request g → x.promptFor f = x.promptFor g
    x.Truthful view ∧ (∀ key, view w key = none) ∧
      (∀ prompt w, ((x.completer.ask prompt).run w).1 = client prompt) ∧
      CollisionFree (((findings.filter Finding.hasFailures).map x.request).map Request.subject) ∧
      alike ∧
      List.Forall₂ (fun f f' => f' = f ∨ ∃ g ∈ findings, g.hasFailures = true ∧
          x.request g = x.request f ∧ ∃ answer, client (x.promptFor g) = .ok answer ∧
          f' = x.explained f answer)
        findings ((x.explain findings).run w).1.2 ∧
      (alike → ∀ n, ((x.explain (findings.take n)).run w).1 =
          x.explainBy (fun f => client (x.promptFor f)) (findings.take n) ∧
        ((x.uncached.explain (findings.take n)).run w).1 =
          x.explainBy (fun f => client (x.promptFor f)) (findings.take n)) := by
  intro client x view pod service findings w alike
  have htruthful : x.Truthful view := ⟨MemoryCache.truthful Nat false, fun prompt w => .refl _⟩
  have hdigest : CollisionFree
      (((findings.filter Finding.hasFailures).map x.request).map Request.subject) := by
    decide +kernel
  have halike : alike := by decide +kernel
  exact ⟨htruthful, fun _ => rfl, fun _ _ => rfl, hdigest, halike,
    cached_explanations_are_plain x client findings w w htruthful (fun _ => rfl) (fun _ _ => rfl)
      hdigest⟩

/-- **A job has the explanation of a pod.** Both ran out of memory, each kind has a template of its
own, and no two texts have the same digest. Without a cache the job is asked about with the template
for jobs; with a cache it is not asked about. -/
theorem a_kind_gets_the_answer_of_another :
    let x : Explainer (StateM (MemoryCache × Unit)) :=
      { completer := Provider.echo, cache := MemoryCache.cache false,
        templates := ⟨(NameMap.empty.insert "Pod" "pod: \x7bfailures\x7d").insert "Job"
          "job: \x7bfailures\x7d"⟩ }
    let killed (kind : String) : Finding := { kind, failures := [⟨"out of memory", [], none⟩] }
    let findings := [killed "Pod", killed "Job"]
    let ofPod := "I am a noop response to the prompt pod: out of memory"
    let ofJob := "I am a noop response to the prompt job: out of memory"
    CollisionFree (((findings.filter Finding.hasFailures).map x.request).map Request.subject) ∧
      ((x.explain findings).run ({}, ())).1 =
        (.ok (), [{ killed "Pod" with details := some ofPod },
          { killed "Job" with details := some ofPod }]) ∧
      ((x.uncached.explain findings).run ({}, ())).1 =
        (.ok (), [{ killed "Pod" with details := some ofPod },
          { killed "Job" with details := some ofJob }]) := by
  intro x killed findings ofPod ofJob
  have hone : ((findings.filter Finding.hasFailures).map x.request).map Request.subject =
      .replicate 2 "noop-english-out of memory" := by
    decide +kernel
  exact ⟨hone ▸ CollisionFree.replicate 2 "noop-english-out of memory", by decide +kernel,
    by decide +kernel⟩

end Explainer
end ClusterTriage
