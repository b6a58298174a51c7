import ClusterTriage.Cache.Memory
import ClusterTriage.Proofs.Explanation.Observed
import Mathlib.Data.List.Forall2

/-!
# What leaves the process

An explainer that masks may send away the kind of a finding and the masked texts of its failures, and
nothing else. That is a statement about two runs. Let the findings differ in everything that is not
sent; then the completer is asked the same prompts, the cache gets the same requests, and the runs end
alike:

> **What was written down is the same** (`masked_findings_disclose_nothing_else`).

The two runs go side by side (`InStep`), and what is the same between them is kept by every request:
the log, the cache, and all that the completers will ever say. Only the findings are not the same, and
of a finding the code reads no more than `Finding.LooksLike` is about before the answer is there.
-/

namespace ClusterTriage

/-! ## 1. Two runs side by side -/

section

variable {σ τ α β α' β' : Type} {R : σ → τ → Prop} {Q : α → β → Prop} {Q' : α' → β' → Prop}

/-- From worlds in a relation two computations come to results in a relation, and to worlds that are in
the first one again. -/
def InStep (R : σ → τ → Prop) (Q : α → β → Prop) (p : StateM σ α) (q : StateM τ β) : Prop :=
  ∀ w v, R w v → Q (p.run w).1 (q.run v).1 ∧ R (p.run w).2 (q.run v).2

theorem InStep.pure {a : α} {b : β} (h : Q a b) : InStep R Q (Pure.pure a) (Pure.pure b) := by
  intro w v hw
  exact ⟨h, hw⟩

theorem InStep.bind {p : StateM σ α} {q : StateM τ β} {f : α → StateM σ α'} {g : β → StateM τ β'}
    (h : InStep R Q p q) (hnext : ∀ a b, Q a b → InStep R Q' (f a) (g b)) :
    InStep R Q' (p >>= f) (q >>= g) := by
  intro w v hw
  obtain ⟨hresult, hworld⟩ := h w v hw
  exact hnext _ _ hresult _ _ hworld

end

/-! ## 2. A cache and a completer that have nothing to do with each other -/

section

variable {κ τ : Type}

/-- A cache in the first part of a world. -/
def Cache.beside (c : Cache (StateM κ)) (τ : Type) : Cache (StateM (κ × τ)) where
  name := c.name
  disabled := c.disabled
  contains key := fun w => (((c.contains key).run w.1).1, ((c.contains key).run w.1).2, w.2)
  load key := fun w => (((c.load key).run w.1).1, ((c.load key).run w.1).2, w.2)
  store key payload := fun w =>
    (((c.store key payload).run w.1).1, ((c.store key payload).run w.1).2, w.2)

/-- A completer in the second part of a world. -/
def Completer.beside (c : Completer (StateM τ)) (κ : Type) : Completer (StateM (κ × τ)) where
  name := c.name
  ask prompt := fun w => (((c.ask prompt).run w.2).1, w.1, ((c.ask prompt).run w.2).2)
  close := fun w => ((), w.1, (c.close.run w.2).2)

/-- What a completer replies to one prompt after another. -/
def Completer.replies (c : Completer (StateM τ)) :
    List String → τ → List (Except CompletionError String)
  | [], _ => []
  | prompt :: rest, v => ((c.ask prompt).run v).1 :: c.replies rest ((c.ask prompt).run v).2

end

/-- Completers that nobody can tell apart by asking: whatever prompts they are asked one after another,
the replies are the same. -/
def Completer.SameReplies {τ τ' : Type} (c : Completer (StateM τ)) (v : τ)
    (c' : Completer (StateM τ')) (v' : τ') : Prop :=
  ∀ prompts, c.replies prompts v = c'.replies prompts v'

theorem Completer.SameReplies.ask {τ τ' : Type} {c : Completer (StateM τ)} {v : τ}
    {c' : Completer (StateM τ')} {v' : τ'} (h : c.SameReplies v c' v') (prompt : String) :
    ((c.ask prompt).run v).1 = ((c'.ask prompt).run v').1 ∧
      c.SameReplies ((c.ask prompt).run v).2 c' ((c'.ask prompt).run v').2 := by
  constructor
  · exact (List.cons.inj (h [prompt])).1
  · intro rest
    exact (List.cons.inj (h (prompt :: rest))).2

/-- Findings that look the same once each failure has its own names masked. -/
structure Finding.LooksLike (f g : Finding) : Prop where
  kind : f.kind = g.kind
  failing : f.hasFailures = g.hasFailures
  input : " ".intercalate (f.failures.map fun e => Redaction.mask e.sensitive e.text) =
    " ".intercalate (g.failures.map fun e => Redaction.mask e.sensitive e.text)

namespace Explainer

/-- An explainer that masks, with a cache and a completer that have nothing to do with each other. -/
def masking {κ τ : Type} (cache : Cache (StateM κ)) (completer : Completer (StateM τ))
    (templates : Templates) (language : String) : Explainer (StateM (κ × τ)) where
  completer := completer.beside κ
  cache := cache.beside τ
  templates := templates
  language := language
  anonymize := true

/-! ## 3. Every request keeps what is the same -/

section

variable {κ τ τ' : Type} {cache : Cache (StateM κ)} {c : Completer (StateM τ)}
  {c' : Completer (StateM τ')} {templates : Templates} {language : String}

/-- Runs that nobody outside can tell apart so far, and that will not be told apart later. -/
structure Indistinct (c : Completer (StateM τ)) (c' : Completer (StateM τ'))
    (o : Observed (κ × τ)) (o' : Observed (κ × τ')) : Prop where
  key : o.key = o'.key
  log : o.log = o'.log
  cache : o.world.1 = o'.world.1
  replies : c.SameReplies o.world.2 c' o'.world.2

theorem inStep_contains (key : String) :
    InStep (Indistinct c c') Eq ((cache.beside τ).observed.contains key)
      ((cache.beside τ').observed.contains key) := by
  rintro ⟨⟨k, v⟩, _, log⟩ ⟨⟨k', v'⟩, _, log'⟩ ⟨rfl, rfl, rfl, hreplies⟩
  exact ⟨rfl, rfl, rfl, rfl, hreplies⟩

theorem inStep_load (key : String) :
    InStep (Indistinct c c') Eq ((cache.beside τ).observed.load key)
      ((cache.beside τ').observed.load key) := by
  rintro ⟨⟨k, v⟩, _, log⟩ ⟨⟨k', v'⟩, _, log'⟩ ⟨rfl, rfl, rfl, hreplies⟩
  exact ⟨rfl, rfl, rfl, rfl, hreplies⟩

theorem inStep_store (key payload : String) :
    InStep (Indistinct c c') Eq ((cache.beside τ).observed.store key payload)
      ((cache.beside τ').observed.store key payload) := by
  rintro ⟨⟨k, v⟩, _, log⟩ ⟨⟨k', v'⟩, _, log'⟩ ⟨rfl, rfl, rfl, hreplies⟩
  exact ⟨rfl, rfl, rfl, rfl, hreplies⟩

theorem inStep_ask (prompt : String) :
    InStep (Indistinct c c') Eq ((c.beside κ).observed.ask prompt)
      ((c'.beside κ).observed.ask prompt) := by
  rintro ⟨⟨k, v⟩, key, log⟩ ⟨⟨k', v'⟩, _, log'⟩ ⟨rfl, rfl, rfl, hreplies⟩
  obtain ⟨hreply, hlater⟩ := hreplies.ask prompt
  refine ⟨hreply, rfl, ?_, rfl, hlater⟩
  exact congrArg (fun reply => log ++ [Event.asked key prompt reply]) hreply

theorem inStep_cached? (key : String) :
    InStep (Indistinct c c') Eq ((masking cache c templates language).observed.cached? key)
      ((masking cache c' templates language).observed.cached? key) := by
  unfold cached?
  show InStep _ _ (if cache.disabled then _ else _) (if cache.disabled then _ else _)
  split
  · exact .pure rfl
  · refine .bind (inStep_contains key) ?_
    rintro found _ rfl
    cases found with
    | false => exact .pure rfl
    | true =>
      refine .bind (inStep_load key) ?_
      rintro payload _ rfl
      cases payload with
      | ok payload => exact .pure rfl
      | error e => exact .pure rfl

theorem inStep_keep (key answer : String) :
    InStep (Indistinct c c') Eq ((masking cache c templates language).observed.keep key answer)
      ((masking cache c' templates language).observed.keep key answer) := by
  unfold keep
  show InStep _ _ (if cache.disabled then _ else _) (if cache.disabled then _ else _)
  split
  · exact .pure rfl
  · refine .bind (inStep_store key (encodePayload answer)) ?_
    intro _ _ _
    exact .pure rfl

/-- The key is made of the name of the completer and the error of what it refused with, so here the
names come in. -/
theorem inStep_answer (hname : c.name = c'.name) (kind input : String) :
    InStep (Indistinct c c') Eq ((masking cache c templates language).observed.answer kind input)
      ((masking cache c' templates language).observed.answer kind input) := by
  have hkey : (masking cache c templates language).observed.key input =
      (masking cache c' templates language).observed.key input :=
    congrArg (Cache.key · language input) hname
  unfold answer
  rw [hkey]
  refine .bind (inStep_cached? _) ?_
  rintro found _ rfl
  cases found with
  | some answer => exact .pure rfl
  | none =>
    refine .bind (inStep_ask _) ?_
    rintro reply _ rfl
    cases reply with
    | error cause =>
      exact .pure (congrArg (fun name => Except.error (ExplainError.classify name cause)) hname)
    | ok answer =>
      refine .bind (inStep_keep _ answer) ?_
      intro _ _ _
      exact .pure rfl

/-- The findings go in step, too. What comes after the answer, the unmasking, stays inside. -/
theorem inStep_explain (hname : c.name = c'.name) {findings findings' : List Finding}
    (h : List.Forall₂ Finding.LooksLike findings findings') :
    InStep (Indistinct c c') (fun r r' => r.1 = r'.1)
      ((masking cache c templates language).observed.explain findings)
      ((masking cache c' templates language).observed.explain findings') := by
  induction h with
  | nil => exact .pure rfl
  | @cons f g rest rest' hfg _ ih =>
    unfold explain
    rw [hfg.failing]
    cases g.hasFailures with
    | false =>
      refine .bind ih ?_
      intro r r' hr
      exact .pure hr
    | true =>
      have hinput : inputOf true f.failures = inputOf true g.failures := hfg.input
      refine .bind (Q := Eq) ?_ ?_
      · show InStep _ _ ((masking cache c templates language).observed.answer f.kind
          (inputOf true f.failures)) _
        rw [hfg.kind, hinput]
        exact inStep_answer hname g.kind (inputOf true g.failures)
      · rintro reply _ rfl
        cases reply with
        | error e => exact .pure rfl
        | ok answer =>
          refine .bind ih ?_
          intro r r' hr
          exact .pure hr

end

/-! ## 4. What leaves the process -/

/-- **What was written down is the same.** Two lists of findings look alike once they are masked, two
explainers with the same templates, the same language and the same cache mask them, and their
completers reply alike to the same prompts. Then the same prompts are sent in the same order with the
same replies, the same keys are looked up, loaded and stored with the same payloads, the caches are
the same in the end, and the explanations end alike. Nothing is asked of the cache: it may fail or be
switched off. -/
theorem masked_findings_disclose_nothing_else {κ τ τ' : Type} (cache : Cache (StateM κ))
    (templates : Templates) (language : String) (c : Completer (StateM τ))
    (c' : Completer (StateM τ')) (k : κ) (v : τ) (v' : τ') (findings findings' : List Finding)
    (hname : c.name = c'.name) (hreplies : c.SameReplies v c' v')
    (hfindings : List.Forall₂ Finding.LooksLike findings findings') :
    let x := masking cache c templates language
    let y := masking cache c' templates language
    ∃ outcome explained explained' o o',
      (x.explain findings).run (k, v) = ((outcome, explained), o.world) ∧
      (x.observed.explain findings).run { world := (k, v) } = ((outcome, explained), o) ∧
      (y.explain findings').run (k, v') = ((outcome, explained'), o'.world) ∧
      (y.observed.explain findings').run { world := (k, v') } = ((outcome, explained'), o') ∧
      o.log = o'.log ∧ o.world.1 = o'.world.1 := by
  intro x y
  have hstep : InStep (Indistinct c c') (fun r r' => r.1 = r'.1) (x.observed.explain findings)
      (y.observed.explain findings') := inStep_explain hname hfindings
  obtain ⟨outcome, explained, o, hx, hxo⟩ := x.exists_observed_run findings (k, v)
  obtain ⟨outcome', explained', o', hy, hyo⟩ := y.exists_observed_run findings' (k, v')
  obtain ⟨hend, hsame⟩ := hstep { world := (k, v) } { world := (k, v') } ⟨rfl, rfl, rfl, hreplies⟩
  rw [hxo, hyo] at hend hsame
  obtain rfl : outcome = outcome' := hend
  exact ⟨outcome, explained, explained', o, o', hx, hxo, hy, hyo, hsame.log, hsame.cache⟩

/-- Two shops with nothing in common but what is wrong with them. The second question is refused. One
completer counts, and the other one keeps the prompts and counts those. -/
theorem masked_shops_disclose_nothing_else :
    let say : Nat → Except CompletionError String := fun n =>
      if n = 1 then .error (.refused 429 "slow down") else .ok (toString n ++ " QwErTyUi")
    let counter : Completer (StateM Nat) :=
      { name := "openai", ask := fun _ => modifyGet fun n => (say n, n + 1), close := return () }
    let keeper : Completer (StateM (List String)) :=
      { name := "openai"
        ask := fun prompt => modifyGet fun kept => (say kept.length, prompt :: kept)
        close := return () }
    let crash (shop pod : String) : Finding :=
      { kind := "Pod", name := shop ++ "/" ++ pod
        failures := [⟨"Pod " ++ shop ++ "/" ++ pod ++ " is crashing",
          [⟨shop, "QwErTyUi"⟩, ⟨pod, "ZxC"⟩], none⟩] }
    let idle (node : String) : Finding := { kind := "Node", name := node }
    let service (shop : String) : Finding :=
      { kind := "Service", name := shop, failures := [⟨shop ++ " is idle", [⟨shop, "AsD"⟩], none⟩] }
    let findings := [crash "payments" "api", idle "a1", service "payments"]
    let findings' := [crash "billing" "web", idle "b2", service "billing"]
    let cache := MemoryCache.cache (m := StateM MemoryCache) false
    let x := masking cache counter .standard "english"
    let y := masking cache keeper .standard "english"
    counter.name = keeper.name ∧ counter.SameReplies 0 keeper [] ∧
      List.Forall₂ Finding.LooksLike findings findings' ∧
      ∃ outcome explained explained' o o',
        (x.explain findings).run ({}, 0) = ((outcome, explained), o.world) ∧
        (x.observed.explain findings).run { world := ({}, 0) } = ((outcome, explained), o) ∧
        (y.explain findings').run ({}, []) = ((outcome, explained'), o'.world) ∧
        (y.observed.explain findings').run { world := ({}, []) } = ((outcome, explained'), o') ∧
        o.log = o'.log ∧ o.world.1 = o'.world.1 := by
  intro say counter keeper crash idle service findings findings' cache x y
  have hreplies : ∀ prompts kept, counter.replies prompts kept.length = keeper.replies prompts kept := by
    intro prompts
    induction prompts with
    | nil => exact fun _ => rfl
    | cons prompt rest ih => exact fun kept => congrArg (say kept.length :: ·) (ih (prompt :: kept))
  have hcrash : Finding.LooksLike (crash "payments" "api") (crash "billing" "web") :=
    ⟨rfl, rfl, by decide +kernel⟩
  have hservice : Finding.LooksLike (service "payments") (service "billing") :=
    ⟨rfl, rfl, by decide +kernel⟩
  have hfindings : List.Forall₂ Finding.LooksLike findings findings' :=
    .cons hcrash (.cons ⟨rfl, rfl, rfl⟩ (.cons hservice .nil))
  exact ⟨rfl, fun prompts => hreplies prompts [], hfindings,
    masked_findings_disclose_nothing_else cache .standard "english" counter keeper {} 0 [] findings
      findings' rfl (fun prompts => hreplies prompts []) hfindings⟩

end Explainer
end ClusterTriage
