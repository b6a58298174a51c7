import ClusterTriage.Proofs.Explanation.Provenance

/-!
# Which prompts are sent

Whether a prompt is sent for a finding depends on what the cache has to say at that moment, and a
cache may say anything: it may be switched off, have nothing, have something that it cannot load, or
load something damaged. So the prompts of an explanation are no function of the findings. They are a
function of the `Visits`: of the findings that the explainer came to, each with what the cache and the
completer said about it. Nothing is assumed of either.

> **The log of an explanation is what its visits write** (`explain_visits`),

and what a visit writes can be read off it (`lines`): its requests to the cache, its prompt if it
needs one, and the payload if the prompt was answered. From that follow the prompts, their order and
the one at which they end, and that a cache that fails costs a prompt and nothing else
(`prompts_are_those_needed`).
-/

namespace ClusterTriage

/-! ## 1. What can be read off a log -/

/-- The prompt that an event sends, if it sends one. -/
def Event.prompt? : Event → Option String
  | .asked _ prompt _ => some prompt
  | _ => none

/-- Whether an event is a request to the cache. -/
def Event.isForCache : Event → Bool
  | .asked .. => false
  | _ => true

/-- The prompts that were sent, in their order. -/
def Observed.prompts {σ : Type} (o : Observed σ) : List String := o.log.filterMap Event.prompt?

namespace Explainer

variable {σ : Type} {x : Explainer (StateM σ)} {f : Finding} {w w' : σ} {key answer : String}

/-! ## 2. What the cache says -/

/-- Why a cache has no answer. -/
inductive Miss where
  /-- It is switched off, and was not asked. -/
  | off
  /-- There is no entry. -/
  | absent
  /-- There is an entry, but it could not be loaded or is damaged. -/
  | unusable
deriving DecidableEq

/-- What a cache says when it is consulted about a key: an answer, or why it has none. -/
inductive Consulted (c : Cache (StateM σ)) (key : String) (w : σ) : Except Miss String → σ → Prop where
  | off (off : c.disabled = true) : Consulted c key w (.error .off) w
  | absent {w' : σ} (on : c.disabled = false) (absent : (c.contains key).run w = (false, w')) :
      Consulted c key w (.error .absent) w'
  | found {w₁ w' : σ} {payload answer : String} (on : c.disabled = false)
      (present : (c.contains key).run w = (true, w₁))
      (loaded : (c.load key).run w₁ = (.ok payload, w')) (holds : Holds payload answer) :
      Consulted c key w (.ok answer) w'
  | unusable {w₁ w' : σ} {loading : Except CacheError String} (on : c.disabled = false)
      (present : (c.contains key).run w = (true, w₁))
      (loaded : (c.load key).run w₁ = (loading, w'))
      (useless : ∀ payload answer, loading = .ok payload → ¬ Holds payload answer) :
      Consulted c key w (.error .unusable) w'

/-- An answer is put into the cache, unless that is switched off. How that goes does not matter. -/
inductive Kept (c : Cache (StateM σ)) (key answer : String) (w : σ) : σ → Prop where
  | off (off : c.disabled = true) : Kept c key answer w w
  | stored {w' : σ} {outcome : Except CacheError Unit} (on : c.disabled = false)
      (stored : (c.store key (Encoding.Base64.encodeString (Text.Utf8.encode answer))).run w =
        (outcome, w')) : Kept c key answer w w'

/-! ## 3. Visits -/

/-- What an explainer did about a finding. -/
inductive Treatment where
  /-- There is nothing to explain. -/
  | none
  /-- The cache had the answer. -/
  | recalled (answer : String)
  /-- The cache had none, and the completer replied to the prompt. -/
  | asked (why : Miss) (reply : Except CompletionError String)

/-- A finding that an explainer came to, and what it did about it. -/
abbrev Visit := Finding × Treatment

namespace Visit

/-- Whether the answer came from the cache. -/
def isRecalled (v : Visit) : Bool :=
  match v.2 with
  | .recalled _ => true
  | _ => false

def answer? (v : Visit) : Option String :=
  match v.2 with
  | .recalled answer | .asked _ (.ok answer) => some answer
  | _ => Option.none

def refusal? (v : Visit) : Option CompletionError :=
  match v.2 with
  | .asked _ (.error cause) => some cause
  | _ => Option.none

end Visit

/-- A treatment is right if it goes by what the cache and the completer said. -/
inductive Treated (x : Explainer (StateM σ)) (f : Finding) (w : σ) : Treatment → σ → Prop where
  | clean (clean : f.hasFailures = false) : Treated x f w .none w
  | recalled {w' : σ} {answer : String} (failing : f.hasFailures = true)
      (found : Consulted x.cache (x.keyOf f) w (.ok answer) w') : Treated x f w (.recalled answer) w'
  | answered {w₁ w₂ w' : σ} {why : Miss} {answer : String} (failing : f.hasFailures = true)
      (missed : Consulted x.cache (x.keyOf f) w (.error why) w₁)
      (given : (x.completer.ask (x.promptFor f)).run w₁ = (.ok answer, w₂))
      (kept : Kept x.cache (x.keyOf f) answer w₂ w') : Treated x f w (.asked why (.ok answer)) w'
  | refused {w₁ w' : σ} {why : Miss} {cause : CompletionError} (failing : f.hasFailures = true)
      (missed : Consulted x.cache (x.keyOf f) w (.error why) w₁)
      (given : (x.completer.ask (x.promptFor f)).run w₁ = (.error cause, w')) :
      Treated x f w (.asked why (.error cause)) w'

/-- The visits of an explanation: one finding after another, up to the first refusal. -/
inductive Visits (x : Explainer (StateM σ)) : σ → List Finding → List Visit → σ → Prop where
  | done (w : σ) : Visits x w [] [] w
  | next {w w₁ w' : σ} {f : Finding} {t : Treatment} {rest : List Finding} {visits : List Visit}
      (treated : Treated x f w t w₁) (goesOn : Visit.refusal? (f, t) = none)
      (next : Visits x w₁ rest visits w') : Visits x w (f :: rest) ((f, t) :: visits) w'
  | refused {w w' : σ} {f : Finding} {why : Miss} {cause : CompletionError} {rest : List Finding}
      (treated : Treated x f w (.asked why (.error cause)) w') :
      Visits x w (f :: rest) [(f, .asked why (.error cause))] w'

/-- What is written down when the cache is consulted. -/
def consultation (key : String) : Except Miss String → List Event
  | .error .off => []
  | .error .absent => [.lookedUp key false]
  | .error .unusable | .ok _ => [.lookedUp key true, .loaded key]

/-- What is written down about a reply: an answer is stored where there is a cache. -/
def afterReply (x : Explainer (StateM σ)) (key : String) : Except CompletionError String → List Event
  | .ok answer =>
    if x.cache.disabled then []
    else [.stored key (Encoding.Base64.encodeString (Text.Utf8.encode answer))]
  | .error _ => []

/-- What a visit writes. A prompt is written down with the key that was looked up last. -/
def lines (x : Explainer (StateM σ)) (v : Visit) : List Event :=
  match v.2 with
  | .none => []
  | .recalled answer => consultation (x.keyOf v.1) (.ok answer)
  | .asked why reply =>
    consultation (x.keyOf v.1) (.error why) ++
      .asked (if x.cache.disabled then "" else x.keyOf v.1) (x.promptFor v.1) reply ::
        x.afterReply (x.keyOf v.1) reply

/-- The finding as a visit leaves it. -/
def afterVisit (x : Explainer (StateM σ)) (v : Visit) : Finding :=
  match v.answer? with
  | some answer => x.explained v.1 answer
  | none => v.1

/-- How visits end: with the refusal, if there is one. -/
def endOf (x : Explainer (StateM σ)) (visits : List Visit) : Except ExplainError Unit :=
  match visits.findSome? Visit.refusal? with
  | some cause => .error (.classify x.completer.name cause)
  | none => .ok ()

theorem afterVisit_of {v : Visit} (h : v.answer? = some answer) :
    x.afterVisit v = x.explained v.1 answer := by
  rw [afterVisit, h]

theorem endOf_next {v : Visit} {visits : List Visit} (h : v.refusal? = none) :
    x.endOf (v :: visits) = x.endOf visits := by
  rw [endOf, List.findSome?_cons, h]
  rfl

/-! ## 4. An explanation consists of visits -/

variable {o : Observed σ}

/-- The key that was looked up last; with the cache switched off, none ever was. -/
def Unkeyed (x : Explainer (StateM σ)) (o : Observed σ) : Prop := x.cache.disabled = true → o.key = ""

theorem cached?_run_off (off : x.cache.disabled = true) : (x.cached? key).run w = (none, w) := by
  unfold cached?
  rw [if_pos off]
  rfl

theorem cached?_run_absent (on : x.cache.disabled = false)
    (absent : (x.cache.contains key).run w = (false, w')) : (x.cached? key).run w = (none, w') := by
  unfold cached?
  rw [if_neg (by simp [on])]
  exact run_bind_of_run absent

theorem cached?_run_of_load (on : x.cache.disabled = false) {loading : Except CacheError String} {w₁ : σ}
    (present : (x.cache.contains key).run w = (true, w₁))
    (loaded : (x.cache.load key).run w₁ = (loading, w')) :
    (x.cached? key).run w = (loading.toOption.bind decodePayload?, w') := by
  unfold cached?
  rw [if_neg (by simp [on])]
  refine (run_bind_of_run present).trans ((run_bind_of_run loaded).trans ?_)
  cases loading with
  | error e => rfl
  | ok payload => rfl

/-- What was loaded is of no use if it holds no answer, and also if it could not be loaded. -/
theorem toOption_bind_eq_none {loading : Except CacheError String}
    (useless : ∀ payload answer, loading = .ok payload → ¬ Holds payload answer) :
    loading.toOption.bind decodePayload? = none := by
  cases loading with
  | error e => rfl
  | ok payload => exact decodePayload?_eq_none fun answer => useless payload answer rfl

/-- What the explainer makes of the cache is what the cache said. -/
theorem cached?_consulted (x : Explainer (StateM σ)) (key : String) (hkey : x.Unkeyed o) :
    ∃ found o', (x.observed.cached? key).run o = (found.toOption, o') ∧
      Consulted x.cache key o.world found o'.world ∧ o'.log = o.log ++ consultation key found ∧
      o'.key = if x.cache.disabled then "" else key := by
  cases hon : x.cache.disabled with
  | true => exact ⟨.error .off, o, cached?_run_off hon, .off hon, (List.append_nil _).symm, hkey hon⟩
  | false =>
    cases hcontains : (x.cache.contains key).run o.world with
    | mk found w =>
      have hlook := Cache.observed_contains_run hcontains
      cases found with
      | false =>
        exact ⟨.error .absent, _, cached?_run_absent hon hlook, .absent hon hcontains, rfl, rfl⟩
      | true =>
        cases hloaded : (x.cache.load key).run w with
        | mk loading w' =>
          have hload :=
            Cache.observed_load_run (o := ⟨w, key, o.log ++ [.lookedUp key true]⟩) hloaded
          have hrun := cached?_run_of_load (x := x.observed) hon hlook hload
          by_cases hholds : ∃ payload answer, loading = .ok payload ∧ Holds payload answer
          · obtain ⟨payload, answer, rfl, hholds⟩ := hholds
            rw [Except.toOption, Option.bind_some, decodePayload?_eq_some.mpr hholds] at hrun
            exact ⟨.ok answer, _, hrun, .found hon hcontains hloaded hholds, List.append_assoc _ _ _, rfl⟩
          · push Not at hholds
            rw [toOption_bind_eq_none hholds] at hrun
            exact ⟨.error .unusable, _, hrun, .unusable hon hcontains hloaded hholds,
              List.append_assoc _ _ _, rfl⟩

/-- Whatever comes of it, an answer is stored once where there is a cache. -/
theorem keep_kept (x : Explainer (StateM σ)) (key answer : String) (o : Observed σ) :
    ∃ w, (x.observed.keep key answer).run o =
        ((), ⟨w, o.key, o.log ++ x.afterReply key (.ok answer)⟩) ∧
      Kept x.cache key answer o.world w := by
  unfold keep afterReply
  show ∃ w, StateT.run (if x.cache.disabled then _ else _) o = _ ∧ _
  cases hon : x.cache.disabled with
  | true =>
    refine ⟨o.world, ?_, .off hon⟩
    simp only [if_true, List.append_nil]
    rfl
  | false =>
    cases hstored : (x.cache.store key (encodePayload answer)).run o.world with
    | mk outcome w =>
      exact ⟨w, run_bind_of_run (Cache.observed_store_run hstored), .stored hon hstored⟩

/-- **One visit** to a finding with failures, with all that is written down about it. -/
theorem answerTo_treated (hf : f.hasFailures = true) (hkey : x.Unkeyed o) :
    ∃ t o', Treated x f o.world t o'.world ∧ o'.log = o.log ++ x.lines (f, t) ∧ x.Unkeyed o' ∧
      ((∃ answer, (x.observed.answerTo f).run o = (.ok answer, o') ∧
          Visit.answer? (f, t) = some answer ∧ Visit.refusal? (f, t) = none) ∨
        ∃ why cause, t = .asked why (.error cause) ∧
          (x.observed.answerTo f).run o = (.error (.classify x.completer.name cause), o')) := by
  obtain ⟨found, o₁, hcached, hfound, hlog₁, hkey₁⟩ := x.cached?_consulted (x.keyOf f) hkey
  have hunkeyed₁ : x.Unkeyed o₁ := fun hoff => by rw [hkey₁, if_pos hoff]
  cases found with
  | ok answer =>
    exact ⟨.recalled answer, o₁, .recalled hf hfound, hlog₁, hunkeyed₁,
      .inl ⟨answer, run_bind_of_run hcached, rfl, rfl⟩⟩
  | error why =>
    cases hreply : (x.completer.ask (x.promptFor f)).run o₁.world with
    | mk reply w =>
      have hask := Completer.observed_ask_run hreply
      rw [hkey₁] at hask
      refine ⟨.asked why reply, ?_⟩
      cases reply with
      | error cause =>
        refine ⟨_, .refused hf hfound hreply, ?_, fun hoff => if_pos hoff, .inr ⟨why, cause, rfl,
          (run_bind_of_run hcached).trans (run_bind_of_run hask)⟩⟩
        show o₁.log ++ _ = _
        rw [hlog₁, List.append_assoc]
        rfl
      | ok answer =>
        obtain ⟨w', hkeep, hkept⟩ := x.keep_kept (x.keyOf f) answer ⟨w, _, o₁.log ++ [_]⟩
        refine ⟨_, .answered hf hfound hreply hkept, ?_, fun hoff => if_pos hoff, .inl ⟨answer,
          (run_bind_of_run hcached).trans ((run_bind_of_run hask).trans (run_bind_of_run hkeep)),
          rfl, rfl⟩⟩
        show o₁.log ++ _ ++ _ = _
        rw [hlog₁, List.append_assoc, List.append_assoc]
        rfl

/-- **The log of an explanation is what its visits write.** -/
theorem explain_visits (x : Explainer (StateM σ)) (findings : List Finding) (hkey : x.Unkeyed o) :
    ∃ visits o', (x.observed.explain findings).run o =
        ((x.endOf visits, visits.map x.afterVisit ++ findings.drop visits.length), o') ∧
      Visits x o.world findings visits o'.world ∧ o'.log = o.log ++ visits.flatMap x.lines := by
  induction findings generalizing o with
  | nil => exact ⟨[], o, rfl, .done _, (List.append_nil _).symm⟩
  | cons f rest ih =>
    cases hf : f.hasFailures with
    | false =>
      obtain ⟨visits, o', hrun, hvisits, hlog⟩ := ih hkey
      exact ⟨(f, .none) :: visits, o', explain_clean hf hrun, .next (.clean hf) rfl hvisits, hlog⟩
    | true =>
      obtain ⟨t, o₁, htreated, hlog₁, hkey₁, hend⟩ := answerTo_treated hf hkey
      rcases hend with ⟨answer, hanswer, hanswered, hgoesOn⟩ | ⟨why, cause, rfl, hrefused⟩
      · obtain ⟨visits, o', hrun, hvisits, hlog⟩ := ih hkey₁
        refine ⟨(f, t) :: visits, o', ?_, .next htreated hgoesOn hvisits, ?_⟩
        · rw [explain_answered hf hanswer hrun, endOf_next hgoesOn, List.map_cons, afterVisit_of hanswered]
          rfl
        · rw [hlog, hlog₁, List.append_assoc, List.flatMap_cons]
      · refine ⟨[(f, .asked why (.error cause))], o₁, explain_refused hf hrefused, .refused htreated, ?_⟩
        rw [hlog₁, List.flatMap_singleton]

/-! ## 5. What can be read off the visits -/

variable {t : Treatment} {v : Visit} {visits : List Visit} {rest findings : List Finding}
  {outcome : Except ExplainError Unit}

/-- How far the visits go, and how they end: over all findings, or up to the one that the completer
refused to explain, which is the last. -/
inductive Ending (x : Explainer (StateM σ)) :
    List Finding → List Visit → Except ExplainError Unit → Prop where
  | all {visits : List Visit} (goesOn : ∀ v ∈ visits, v.refusal? = none) :
      Ending x (visits.map (·.1)) visits (.ok ())
  | refused {before : List Visit} {f : Finding} {why : Miss} {cause : CompletionError}
      {rest : List Finding} (goesOn : ∀ v ∈ before, v.refusal? = none) :
      Ending x (before.map (·.1) ++ f :: rest) (before ++ [(f, .asked why (.error cause))])
        (.error (.classify x.completer.name cause))

theorem Ending.cons (hv : v.refusal? = none) (h : Ending x rest visits outcome) :
    Ending x (v.1 :: rest) (v :: visits) outcome := by
  cases h with
  | all goesOn => exact .all (List.forall_mem_cons.mpr ⟨hv, goesOn⟩)
  | @refused before _ _ _ _ goesOn =>
    exact @Ending.refused σ x (v :: before) _ _ _ _ (List.forall_mem_cons.mpr ⟨hv, goesOn⟩)

theorem Visits.ending (h : Visits x w findings visits w') :
    Ending x findings visits (x.endOf visits) := by
  induction h with
  | done => exact .all fun _ hv => absurd hv List.not_mem_nil
  | next _ goesOn _ ih =>
    rw [endOf_next goesOn]
    exact ih.cons goesOn
  | refused => exact @Ending.refused σ x [] _ _ _ _ fun _ hv => absurd hv List.not_mem_nil

theorem Visits.treated (h : Visits x w findings visits w') :
    ∀ v ∈ visits, ∃ w w', Treated x v.1 w v.2 w' := by
  induction h with
  | done => exact fun _ hv => absurd hv List.not_mem_nil
  | next treated _ _ ih => exact List.forall_mem_cons.mpr ⟨⟨_, _, treated⟩, ih⟩
  | refused treated => exact List.forall_mem_singleton.mpr ⟨_, _, treated⟩

/-- A prompt is sent for a finding with failures whose answer did not come from the cache. -/
def Visit.needsPrompt (v : Visit) : Bool := !v.1.failures.isEmpty && !v.isRecalled

theorem prompts_consultation (key : String) (found : Except Miss String) :
    (consultation key found).filterMap Event.prompt? = [] := by
  rcases found with (_ | _ | _) | _ <;> rfl

theorem prompts_afterReply (x : Explainer (StateM σ)) (key : String)
    (reply : Except CompletionError String) : (x.afterReply key reply).filterMap Event.prompt? = [] := by
  cases reply with
  | error cause => rfl
  | ok answer =>
    unfold afterReply
    cases x.cache.disabled <;> rfl

theorem Treated.prompts (h : Treated x f w t w') :
    (x.lines (f, t)).filterMap Event.prompt? =
      ([(f, t)].filter Visit.needsPrompt).map fun v => x.promptFor v.1 := by
  have hsent (why : Miss) (reply : Except CompletionError String) (hf : f.hasFailures = true) :
      (x.lines (f, .asked why reply)).filterMap Event.prompt? =
        ([(f, .asked why reply)].filter Visit.needsPrompt).map fun v => x.promptFor v.1 := by
    have hneeds : Visit.needsPrompt (f, .asked why reply) = true := by
      simpa [Visit.needsPrompt, Visit.isRecalled, Finding.hasFailures] using hf
    simp only [lines, List.filterMap_append, prompts_consultation, List.filterMap_cons,
      Event.prompt?, prompts_afterReply, List.filter_cons_of_pos hneeds]
    rfl
  cases h with
  | clean clean => simpa [lines, Visit.needsPrompt, Visit.isRecalled, Finding.hasFailures] using clean
  | recalled => simp [lines, prompts_consultation, Visit.needsPrompt, Visit.isRecalled]
  | answered failing => exact hsent _ _ failing
  | refused failing => exact hsent _ _ failing

/-- **The prompts that are sent are those that are needed**, in the order of the findings. -/
theorem prompts_lines (h : ∀ v ∈ visits, ∃ w w', Treated x v.1 w v.2 w') :
    (visits.flatMap x.lines).filterMap Event.prompt? =
      (visits.filter Visit.needsPrompt).map fun v => x.promptFor v.1 := by
  induction visits with
  | nil => rfl
  | cons v rest ih =>
    obtain ⟨⟨w, w', hv⟩, hrest⟩ := List.forall_mem_cons.mp h
    rw [List.flatMap_cons, List.filterMap_append, hv.prompts, ih hrest, ← List.map_append,
      ← List.filter_append]
    rfl

/-! ### With the cache switched off -/

theorem Consulted.off_of {c : Cache (StateM σ)} {found : Except Miss String}
    (h : Consulted c key w found w') (hoff : c.disabled = true) : found = .error .off := by
  cases h with
  | off => rfl
  | absent on | found on | unusable on => simp [hoff] at on

theorem Treated.of_off (h : Treated x f w t w') (hoff : x.cache.disabled = true) :
    Visit.isRecalled (f, t) = false ∧ ∀ e ∈ x.lines (f, t), e.isForCache = false := by
  cases h with
  | clean => exact ⟨rfl, fun _ he => absurd he List.not_mem_nil⟩
  | recalled _ found => exact absurd (found.off_of hoff) (by simp)
  | answered _ missed =>
    obtain rfl := Except.error.inj (missed.off_of hoff)
    exact ⟨rfl, by simp [lines, consultation, afterReply, hoff, Event.isForCache]⟩
  | refused _ missed =>
    obtain rfl := Except.error.inj (missed.off_of hoff)
    exact ⟨rfl, by simp [lines, consultation, afterReply, Event.isForCache]⟩

/-! ### With the cache switched on -/

theorem stored_lines (hon : x.cache.disabled = false) (visits : List Visit) :
    (visits.flatMap x.lines).filterMap Event.stored? =
      ((visits.flatMap x.lines).filterMap Event.call?).filterMap payloadOf? := by
  induction visits with
  | nil => rfl
  | cons v rest ih =>
    have hv : (x.lines v).filterMap Event.stored? =
        ((x.lines v).filterMap Event.call?).filterMap payloadOf? := by
      obtain ⟨f, _ | answer | ⟨why, reply⟩⟩ := v
      · rfl
      · rfl
      · cases why <;> cases reply <;> simp [lines, consultation, afterReply, hon] <;> rfl
    simp only [List.flatMap_cons, List.filterMap_append, hv, ih]

/-! ## 6. Caches that fail -/

/-- Caches that have the same answers and do the same things. Why there is no answer may be different,
and so may be what is said about a payload that was to be stored. -/
structure AlikeButForFailures (c d : Cache (StateM σ)) : Prop where
  consulted {key : String} {w w' : σ} {found : Except Miss String} (h : Consulted c key w found w') :
    ∃ found', Consulted d key w found' w' ∧ found'.toOption = found.toOption
  kept {key answer : String} {w w' : σ} (h : Kept c key answer w w') : Kept d key answer w w'

/-- The same cache, except that it fails to load what cannot be used, and says of everything that was to
be stored that it was not. -/
def failing (c : Cache (StateM σ)) (e : CacheError) : Cache (StateM σ) :=
  { c with
    load := fun key => do
      let loading ← c.load key
      return if (loading.toOption.bind decodePayload?).isSome then loading else .error e
    store := fun key payload => do
      let _ ← c.store key payload
      return .error e }

/-- What cannot be loaded amounts to what cannot be used. -/
theorem alikeButForFailures_failing (c : Cache (StateM σ)) (e : CacheError) :
    AlikeButForFailures c (failing c e) where
  consulted {key w w' found} h := by
    cases h with
    | off off => exact ⟨_, .off off, rfl⟩
    | absent on absent => exact ⟨_, .absent on absent, rfl⟩
    | found on present loaded holds =>
      refine ⟨_, .found on present ((run_bind_of_run loaded).trans ?_) holds, rfl⟩
      simp only [Except.toOption, Option.bind_some, decodePayload?_eq_some.mpr holds]
      rfl
    | @unusable w₁ _ loading on present loaded useless =>
      have hfails : ((failing c e).load key).run w₁ = (.error e, w') := by
        refine (run_bind_of_run loaded).trans ?_
        rw [toOption_bind_eq_none useless]
        rfl
      exact ⟨_, .unusable on present hfails (by simp), rfl⟩
  kept h := by
    cases h with
    | off off => exact .off off
    | stored on stored => exact .stored on (run_bind_of_run stored)

/-- The same explainer with another cache. -/
def withCache (x : Explainer (StateM σ)) (cache : Cache (StateM σ)) : Explainer (StateM σ) :=
  { x with cache }

theorem Consulted.run {found : Except Miss String} (h : Consulted x.cache key w found w') :
    (x.cached? key).run w = (found.toOption, w') := by
  cases h with
  | off off => exact cached?_run_off off
  | absent on absent => exact cached?_run_absent on absent
  | found on present loaded holds =>
    rw [cached?_run_of_load on present loaded, Except.toOption, Option.bind_some,
      decodePayload?_eq_some.mpr holds]
    rfl
  | unusable on present loaded useless =>
    rw [cached?_run_of_load on present loaded, toOption_bind_eq_none useless]
    rfl

theorem exists_consulted (x : Explainer (StateM σ)) (key : String) (w : σ) :
    ∃ found w', (x.cached? key).run w = (found.toOption, w') ∧ Consulted x.cache key w found w' := by
  obtain ⟨found, o', hrun, hfound, -⟩ := x.cached?_consulted key (o := { world := w }) fun _ => rfl
  exact ⟨found, o'.world, (x.observed_cached? key).unwatched hrun, hfound⟩

theorem Kept.run (h : Kept x.cache key answer w w') : (x.keep key answer).run w = ((), w') := by
  unfold keep
  cases h with
  | off off => rw [if_pos off]; rfl
  | stored on stored =>
    rw [if_neg (by simp [on])]
    exact run_bind_of_run stored

theorem exists_kept (x : Explainer (StateM σ)) (key answer : String) (w : σ) :
    ∃ w', (x.keep key answer).run w = ((), w') ∧ Kept x.cache key answer w w' := by
  obtain ⟨w', hrun, hkept⟩ := x.keep_kept key answer { world := w }
  exact ⟨w', (x.observed_keep key answer).unwatched hrun, hkept⟩

variable {cache : Cache (StateM σ)}

theorem AlikeButForFailures.cached? (h : AlikeButForFailures x.cache cache) (key : String) :
    (x.withCache cache).cached? key = x.cached? key := by
  funext w
  obtain ⟨found, w', hrun, hfound⟩ := x.exists_consulted key w
  obtain ⟨found', hfound', hsame⟩ := h.consulted hfound
  have hrun' : ((x.withCache cache).cached? key).run w = (found'.toOption, w') := hfound'.run
  rw [hsame] at hrun'
  exact hrun'.trans hrun.symm

theorem AlikeButForFailures.keep (h : AlikeButForFailures x.cache cache) (key answer : String) :
    (x.withCache cache).keep key answer = x.keep key answer := by
  funext w
  obtain ⟨w', hrun, hkept⟩ := x.exists_kept key answer w
  have hrun' : ((x.withCache cache).keep key answer).run w = ((), w') := (h.kept hkept).run
  exact hrun'.trans hrun.symm

/-- Everything that an explainer has from its cache goes through these two requests. -/
theorem AlikeButForFailures.explain (h : AlikeButForFailures x.cache cache) (findings : List Finding) :
    (x.withCache cache).explain findings = x.explain findings := by
  have hanswer (kind input : String) :
      (x.withCache cache).answer kind input = x.answer kind input := by
    unfold answer
    simp only [h.cached?, h.keep]
    rfl
  induction findings with
  | nil => rfl
  | cons f rest ih =>
    unfold Explainer.explain
    rw [ih]
    simp only [hanswer]
    rfl

/-! ## 7. The prompts of an explanation -/

/-- **The prompts that are sent are those that are needed.** Whatever the findings, the cache and the
completer: an explanation goes over the findings, and what it does about each of them goes by what the
cache and the completer said. Its prompts are those for the findings with failures that were not
answered from a usable entry, in their order, each the template of its kind with the texts of its failures
filled in, and these masked if names are masked; and it ends with the findings or with the first prompt
that the completer refuses. With the cache switched off nothing is asked of it, and every finding with
failures has its prompt, up to that end. With the cache switched on the base64 of every answer as it came
is stored once, right after it came, and nothing else is. And it makes no difference why a cache has no
answer or what it says about storing one: caches that are alike but for failures lead to the same
explanation. -/
theorem prompts_are_those_needed (x : Explainer (StateM σ)) (findings : List Finding) (w : σ) :
    let wording : Finding → String := fun f =>
      " ".intercalate
        (f.failures.map fun g => if x.anonymize then Redaction.mask g.sensitive g.text else g.text)
    let prompt : Finding → String := fun f => x.templates.render f.kind x.language (wording f)
    (∃ visits outcome findings' o,
      (x.explain findings).run w = ((outcome, findings'), o.world) ∧
      (x.observed.explain findings).run { world := w } = ((outcome, findings'), o) ∧
      Visits x w findings visits o.world ∧ o.log = visits.flatMap x.lines ∧
      findings' = visits.map x.afterVisit ++ findings.drop visits.length ∧
      o.prompts =
        (visits.filter fun v => !v.1.failures.isEmpty && !v.isRecalled).map (fun v => prompt v.1) ∧
      Ending x findings visits outcome ∧
      (x.cache.disabled = true → (∀ e ∈ o.log, e.isForCache = false) ∧
        o.prompts = ((visits.map (·.1)).filter fun f => !f.failures.isEmpty).map prompt) ∧
      (x.cache.disabled = false → o.stored = o.calls.filterMap fun call =>
        call.2.toOption.map fun answer =>
          (call.1, Encoding.Base64.encodeString (Text.Utf8.encode answer)))) ∧
    ∀ cache, AlikeButForFailures x.cache cache →
      (x.withCache cache).explain findings = x.explain findings := by
  intro wording prompt
  refine ⟨?_, fun cache h => h.explain findings⟩
  obtain ⟨visits, o, hrun, hvisits, hlog⟩ := x.explain_visits findings (o := { world := w }) fun _ => rfl
  have hlines : o.log = visits.flatMap x.lines := hlog
  have htreated := hvisits.treated
  have hprompts : o.prompts = (visits.filter Visit.needsPrompt).map fun v => prompt v.1 := by
    rw [Observed.prompts, hlines]
    exact prompts_lines htreated
  refine ⟨visits, _, _, o, (x.observed_explain findings).unwatched hrun, hrun, hvisits, hlines, rfl,
    hprompts, hvisits.ending, fun hoff => ⟨?_, ?_⟩, fun hon => ?_⟩
  · intro e he
    rw [hlines] at he
    obtain ⟨v, hv, he⟩ := List.mem_flatMap.mp he
    obtain ⟨_, _, hv⟩ := htreated v hv
    exact (hv.of_off hoff).2 e he
  · rw [hprompts, List.filter_map, List.map_map]
    refine congrArg (List.map _) (List.filter_congr fun v hv => ?_)
    obtain ⟨_, _, hv⟩ := htreated v hv
    simp [Visit.needsPrompt, (hv.of_off hoff).1]
  · rw [Observed.stored, Observed.calls, hlines, stored_lines hon visits]
    refine List.filterMap_congr fun call _ => ?_
    obtain ⟨key, answer | cause⟩ := call
    · rfl
    · rfl

/-- Names are masked, and prompts about networks are refused. For the pod the cache has an entry that it
cannot load, for the service one with blanks around it, for the second pod the one that was stored for the
first, for the claim a damaged one, and for the ingress none; that is where it ends. Nothing of this is
different if the cache says of every payload that it was not stored, and with the cache switched off the
service and the second pod have prompts of their own. -/
theorem a_masked_pod_is_asked_about_once :
    let completer : Completer (StateM (List (Except CacheError String))) :=
      { name := "openai"
        ask := fun prompt => pure (if Text.containsString prompt "network" then
          .error (.refused 500 "busy") else .ok ("re: " ++ prompt))
        close := return () }
    let cache : Cache (StateM (List (Except CacheError String))) :=
      { name := "list", disabled := false
        contains := fun _ => return !(← get).isEmpty
        load := fun _ => modifyGet fun loads => (loads.headD (.error .noDirectory), loads.tail)
        store := fun _ _ => return .ok () }
    let x : Explainer (StateM (List (Except CacheError String))) :=
      { completer, cache, anonymize := true
        templates := ⟨(NameMap.empty.insert "default" "\x7bfailures\x7d").insert "Pod"
          "pod (\x7blanguage\x7d): \x7bfailures\x7d"⟩ }
    let pod : Finding :=
      { kind := "Pod", name := "web"
        failures := [⟨"web is down", [⟨"web", "x7q"⟩], none⟩, ⟨"db is slow", [⟨"db", "k3"⟩], none⟩] }
    let node : Finding := { kind := "Node", name := "a1" }
    let broken (kind text : String) : Finding := { kind, failures := [⟨text, [], none⟩] }
    let service := broken "Service" "no endpoints"
    let claim := broken "PersistentVolumeClaim" "claim lost"
    let ingress := broken "Ingress" "no network"
    let findings := [pod, node, service, pod, claim, ingress, pod]
    let payload := "cmU6IHBvZCAoZW5nbGlzaCk6IHg3cSBpcyBkb3duIGszIGlzIHNsb3c="
    let loads := [.error (.notFound "pod"), .ok " b2s=\n", .ok payload, .ok "!"]
    let explainedPod := { pod with details := some "re: pod (english): web is down db is slow" }
    let explained := [explainedPod, node, { service with details := some "ok" }, explainedPod,
      { claim with details := some "re: claim lost" }, ingress, pod]
    let refusal := ExplainError.failed "openai" (.refused 500 "busy")
    let off := x.withCache { cache with disabled := true }
    (∃ visits, ∃ o : Observed (List (Except CacheError String)),
      (x.explain findings).run loads = ((.error refusal, explained), o.world) ∧
      Visits x loads findings visits o.world ∧
      o.prompts = ["pod (english): x7q is down k3 is slow", "claim lost", "no network"] ∧
      o.stored.map Prod.snd = [payload, "cmU6IGNsYWltIGxvc3Q="]) ∧
    (∀ e, (x.withCache (failing cache e)).explain findings = x.explain findings) ∧
    ∃ explained, ∃ o : Observed (List (Except CacheError String)),
      (off.explain findings).run loads = ((.error refusal, explained), o.world) ∧
      (∀ e ∈ o.log, e.isForCache = false) ∧
      o.prompts = ["pod (english): x7q is down k3 is slow", "no endpoints",
        "pod (english): x7q is down k3 is slow", "claim lost", "no network"] := by
  intro completer cache x pod node broken service claim ingress findings payload loads explainedPod
    explained refusal off
  obtain ⟨⟨visits, outcome, findings', o, hrun, hwatched, hvisits, -⟩, hfailing⟩ :=
    prompts_are_those_needed x findings loads
  obtain ⟨⟨_, outcome', findings'', o', hrun', hwatched', -, -, -, -, -, hoff, -⟩, -⟩ :=
    prompts_are_those_needed off findings loads
  have hseen : ((x.observed.explain findings).run { world := loads }).1 = (.error refusal, explained) ∧
      ((x.observed.explain findings).run { world := loads }).2.prompts =
        ["pod (english): x7q is down k3 is slow", "claim lost", "no network"] ∧
      ((x.observed.explain findings).run { world := loads }).2.stored.map Prod.snd =
        [payload, "cmU6IGNsYWltIGxvc3Q="] := by
    decide +kernel
  have hseen' : ((off.observed.explain findings).run { world := loads }).1.1 = .error refusal ∧
      ((off.observed.explain findings).run { world := loads }).2.prompts =
        ["pod (english): x7q is down k3 is slow", "no endpoints",
          "pod (english): x7q is down k3 is slow", "claim lost", "no network"] := by
    decide +kernel
  rw [hwatched] at hseen
  rw [hwatched'] at hseen'
  obtain ⟨hresult, hprompts, hstored⟩ := hseen
  obtain ⟨houtcome, hprompts'⟩ := hseen'
  obtain ⟨rfl, rfl⟩ := Prod.mk.inj hresult
  obtain rfl : outcome' = .error refusal := houtcome
  exact ⟨⟨visits, o, hrun, hvisits, hprompts, hstored⟩,
    fun e => hfailing _ (alikeButForFailures_failing cache e),
    findings'', o', hrun', (hoff rfl).1, hprompts'⟩

end Explainer
end ClusterTriage
