import ClusterTriage.Proofs.Cache.Fingerprint
import ClusterTriage.Proofs.Cache.Truthful
import ClusterTriage.Proofs.Explanation.Recall

/-!
# Where an answer comes from

An answer that comes out of a cache was given to somebody else, who asked for something else unless
the key says that it was the same. `Sourced` tells an explanation with the origin of every answer: a
finding is explained by a call of its own or by a call that is on record, and the record says by whom
and for which finding the call was made.

> **Every answer has a source** (`session_sourced`): whatever explainers share a cache that was empty,
> an answer that is recalled was given to a request with the same key.

What carries this through a run is that the cache has nothing but what is on record (`Books`). It is
true of every cache that makes nothing up, and of explainers that use it and of others that do not.
-/

namespace ClusterTriage

/-- The prompt and the reply, if an event is a call. -/
def Event.question? : Event → Option (String × Except CompletionError String)
  | .asked _ prompt reply => some (prompt, reply)
  | _ => none

namespace Explainer

variable {σ : Type} {view : σ → String → Option String} {x : Explainer (StateM σ)}

/-! ## 1. Calls on record -/

/-- What is asked for when a finding is explained. -/
def request (x : Explainer (StateM σ)) (f : Finding) : Request where
  provider := x.completer.name
  language := x.language
  input := x.wording f

/-- The prompt for a finding. It is the only thing for which the kind is needed. -/
def promptFor (x : Explainer (StateM σ)) (f : Finding) : String :=
  x.templates.render f.kind x.language (x.wording f)

/-- In some world the completer replies this to the prompt for a finding. -/
def Replies (x : Explainer (StateM σ)) (f : Finding) (reply : Except CompletionError String) : Prop :=
  ∃ w, ((x.completer.ask (x.promptFor f)).run w).1 = reply

/-- A call of a completer: by whom and for which finding it was made, and what came back. -/
structure Asked (σ : Type) where
  explainer : Explainer (StateM σ)
  finding : Finding
  reply : Except CompletionError String

def Asked.request (a : Asked σ) : Request := a.explainer.request a.finding

/-- What is written down about a call. -/
def Asked.line (a : Asked σ) : String × Except CompletionError String :=
  (a.explainer.promptFor a.finding, a.reply)

/-- The calls on record are those that were made, and the cache has only answers that are on record,
each under the key of its request. -/
structure Books (view : σ → String → Option String) (past : List (Asked σ)) (o : Observed σ) :
    Prop where
  questions : o.log.filterMap Event.question? = past.map Asked.line
  source (key payload : String) (h : view o.world key = some payload) :
    ∃ a ∈ past, ∃ answer, a.request.key = key ∧ a.reply = .ok answer ∧ payload = encodePayload answer

/-- An explainer whose cache makes nothing up and whose completer puts nothing into it. -/
structure Truthful (x : Explainer (StateM σ)) (view : σ → String → Option String) : Prop where
  cache : x.cache.Truthful view
  completer (prompt : String) (w : σ) :
    NoNewEntries (view w) (view ((x.completer.ask prompt).run w).2)

/-! ## 2. One request -/

variable {past : List (Asked σ)} {o : Observed σ} {w : σ} {key answer : String} {f : Finding}

/-- Of an empty cache there is nothing to record. -/
theorem Books.empty (hempty : ∀ key, view w key = none) :
    Books view ([] : List (Asked σ)) { world := w } where
  questions := rfl
  source key payload hentry := by
    rw [hempty key] at hentry
    cases hentry

/-- What is no call and brings no entry leaves the books as they are. -/
theorem Books.silent (h : Books view past o) (hview : NoNewEntries (view o.world) (view w))
    (key : String) {line : Event} (hline : line.question? = none) :
    Books view past ⟨w, key, o.log ++ [line]⟩ where
  questions := by
    rw [List.filterMap_append, h.questions, List.filterMap_cons_none hline]
    exact List.append_nil _
  source other payload hentry := h.source other payload (hview other payload hentry)

/-- A call is put on record. -/
theorem Books.ask (h : Books view past o) (hx : x.Truthful view) (f : Finding) :
    ∃ reply o', (x.observed.completer.ask (x.promptFor f)).run o = (reply, o') ∧
      x.Replies f reply ∧ Books view (past ++ [⟨x, f, reply⟩]) o' := by
  cases hreply : (x.completer.ask (x.promptFor f)).run o.world with
  | mk reply w =>
    have hview := hx.completer (x.promptFor f) o.world
    rw [hreply] at hview
    refine ⟨reply, _, Completer.observed_ask_run hreply, ⟨o.world, by rw [hreply]⟩, ?_, ?_⟩
    · rw [List.filterMap_append, h.questions, List.map_append]
      rfl
    · intro other payload hentry
      obtain ⟨a, ha, hsource⟩ := h.source other payload (hview other payload hentry)
      exact ⟨a, List.mem_append_left _ ha, hsource⟩

/-- What is recalled is on record. -/
theorem Books.cached? (h : Books view past o) (hx : x.Truthful view) (key : String) :
    ∃ found o', (x.observed.cached? key).run o = (found, o') ∧ Books view past o' ∧
      ∀ answer, found = some answer → ∃ a ∈ past, a.request.key = key ∧ a.reply = .ok answer := by
  unfold Explainer.cached?
  show ∃ found o', StateT.run (if x.cache.disabled then _ else _) o = _ ∧ _
  split
  · exact ⟨none, o, rfl, h, fun _ hfound => by cases hfound⟩
  cases hcontains : (x.cache.contains key).run o.world with
  | mk found w =>
    have hlook := Cache.observed_contains_run hcontains
    have hview := hx.cache.contains key o.world
    rw [hcontains] at hview
    cases found with
    | false =>
      exact ⟨none, _, run_bind_of_run hlook, h.silent hview key rfl, fun _ hfound => by cases hfound⟩
    | true =>
      cases hpayload : (x.cache.load key).run w with
      | mk payload w' =>
        have hload := Cache.observed_load_run (o := ⟨w, key, o.log ++ [.lookedUp key true]⟩) hpayload
        have hview' := hx.cache.load key w
        rw [hpayload] at hview'
        have hbooks : Books view past ⟨w', key, o.log ++ [.lookedUp key true] ++ [.loaded key]⟩ :=
          (h.silent hview key rfl).silent hview' key rfl
        cases payload with
        | error e =>
          exact ⟨none, _, (run_bind_of_run hlook).trans (run_bind_of_run hload), hbooks,
            fun _ hfound => by cases hfound⟩
        | ok payload =>
          refine ⟨decodePayload? payload, _,
            (run_bind_of_run hlook).trans (run_bind_of_run hload), hbooks, ?_⟩
          intro answer hfound
          -- the payload was in the cache, so its answer is on record
          have hentry := hview key payload (hx.cache.loaded key payload w (by rw [hpayload]))
          obtain ⟨a, ha, answer', hkey, hreply, rfl⟩ := h.source key payload hentry
          rw [decodePayload?_encodePayload] at hfound
          cases hfound
          exact ⟨a, ha, hkey, hreply⟩

/-- An answer on record may be kept. -/
theorem Books.keep (h : Books view past o) (hx : x.Truthful view) {a : Asked σ} (ha : a ∈ past)
    (hreply : a.reply = .ok answer) :
    ∃ o', (x.observed.keep a.request.key answer).run o = ((), o') ∧ Books view past o' := by
  unfold Explainer.keep
  show ∃ o', StateT.run (if x.cache.disabled then _ else _) o = _ ∧ _
  split
  · exact ⟨o, rfl, h⟩
  cases hstore : (x.cache.store a.request.key (encodePayload answer)).run o.world with
  | mk outcome w =>
    refine ⟨_, run_bind_of_run (Cache.observed_store_run hstore), ?_, ?_⟩
    · rw [List.filterMap_append, h.questions]
      exact List.append_nil _
    · intro other payload hentry
      have hstored := hx.cache.store a.request.key (encodePayload answer) o.world other payload
      rw [hstore] at hstored
      rcases hstored hentry with hbefore | ⟨rfl, rfl⟩
      · exact h.source other payload hbefore
      · exact ⟨a, ha, answer, rfl, hreply, rfl⟩

/-- **The answer to a finding is on record**, from before or from now. -/
theorem Books.answerTo (h : Books view past o) (hx : x.Truthful view) (f : Finding) :
    (∃ a ∈ past, ∃ answer o', a.request.key = (x.request f).key ∧ a.reply = .ok answer ∧
      (x.observed.answerTo f).run o = (.ok answer, o') ∧ Books view past o') ∨
    (∃ reply o', x.Replies f reply ∧ (x.observed.answerTo f).run o = (x.ofReply reply, o') ∧
      Books view (past ++ [⟨x, f, reply⟩]) o') := by
  obtain ⟨found, o₁, hcached, hbooks, hrecord⟩ := h.cached? hx (x.request f).key
  cases found with
  | some answer =>
    obtain ⟨a, ha, hkey, hreply⟩ := hrecord answer rfl
    exact .inl ⟨a, ha, answer, o₁, hkey, hreply, run_bind_of_run hcached, hbooks⟩
  | none =>
    obtain ⟨reply, o₂, hask, hreplies, hbooks₂⟩ := hbooks.ask hx f
    refine .inr ?_
    cases reply with
    | error cause =>
      exact ⟨.error cause, o₂, hreplies, (run_bind_of_run hcached).trans (run_bind_of_run hask),
        hbooks₂⟩
    | ok answer =>
      obtain ⟨o₃, hkeep, hbooks₃⟩ := hbooks₂.keep hx (a := ⟨x, f, .ok answer⟩)
        (List.mem_append_right _ (List.mem_singleton.mpr rfl)) rfl
      exact ⟨.ok answer, o₃, hreplies, (run_bind_of_run hcached).trans
        ((run_bind_of_run hask).trans (run_bind_of_run hkeep)), hbooks₃⟩

/-! ## 3. The sources of an explanation -/

/-- An explanation told with the source of every answer: from the calls that are on record, the calls
that it makes, how it ends and what becomes of the findings. A call that is on record may be recalled
for a request that stands in a relation to the one it was made for. -/
inductive Sourced (R : Request → Request → Prop) (x : Explainer (StateM σ)) :
    List (Asked σ) → List Finding → List (Asked σ) → Except ExplainError Unit → List Finding →
    Prop where
  | done (past : List (Asked σ)) : Sourced R x past [] [] (.ok ()) []
  | clean {past made : List (Asked σ)} {f : Finding} {rest rest' : List Finding}
      {outcome : Except ExplainError Unit} (h : f.hasFailures = false)
      (next : Sourced R x past rest made outcome rest') :
      Sourced R x past (f :: rest) made outcome (f :: rest')
  | recalled {past made : List (Asked σ)} {f : Finding} {rest rest' : List Finding}
      {outcome : Except ExplainError Unit} {a : Asked σ} {answer : String} (h : f.hasFailures = true)
      (known : a ∈ past) (related : R a.request (x.request f)) (given : a.reply = .ok answer)
      (next : Sourced R x past rest made outcome rest') :
      Sourced R x past (f :: rest) made outcome (x.explained f answer :: rest')
  | asked {past made : List (Asked σ)} {f : Finding} {rest rest' : List Finding}
      {outcome : Except ExplainError Unit} {answer : String} (h : f.hasFailures = true)
      (given : x.Replies f (.ok answer))
      (next : Sourced R x (past ++ [⟨x, f, .ok answer⟩]) rest made outcome rest') :
      Sourced R x past (f :: rest) (⟨x, f, .ok answer⟩ :: made) outcome
        (x.explained f answer :: rest')
  | refused {past : List (Asked σ)} {f : Finding} {rest : List Finding} {cause : CompletionError}
      (h : f.hasFailures = true) (given : x.Replies f (.error cause)) :
      Sourced R x past (f :: rest) [⟨x, f, .error cause⟩]
        (.error (.classify x.completer.name cause)) (f :: rest)

/-- Explanations one after another, each with the calls of those before it on record. -/
inductive AllSourced (R : Request → Request → Prop) :
    List (Asked σ) → List (Explainer (StateM σ) × List Finding) → List (Asked σ) →
    List (Except ExplainError Unit × List Finding) → Prop where
  | done (past : List (Asked σ)) : AllSourced R past [] [] []
  | next {past made more : List (Asked σ)} {x : Explainer (StateM σ)} {findings findings' : List Finding}
      {rest : List (Explainer (StateM σ) × List Finding)} {outcome : Except ExplainError Unit}
      {results : List (Except ExplainError Unit × List Finding)}
      (first : Sourced R x past findings made outcome findings')
      (others : AllSourced R (past ++ made) rest more results) :
      AllSourced R past ((x, findings) :: rest) (made ++ more) ((outcome, findings') :: results)

/-- Requests with one key. -/
def SameKey (r r' : Request) : Prop := r.key = r'.key

theorem explain_sourced (hx : x.Truthful view) (findings : List Finding) (h : Books view past o) :
    ∃ outcome findings' made o', (x.observed.explain findings).run o = ((outcome, findings'), o') ∧
      Books view (past ++ made) o' ∧ Sourced SameKey x past findings made outcome findings' := by
  induction findings generalizing past o with
  | nil => exact ⟨.ok (), [], [], o, rfl, by rwa [List.append_nil], .done past⟩
  | cons f rest ih =>
    cases hf : f.hasFailures with
    | false =>
      obtain ⟨outcome, rest', made, o', hrun, hbooks, hstory⟩ := ih h
      exact ⟨outcome, f :: rest', made, o', explain_clean hf hrun, hbooks, .clean hf hstory⟩
    | true =>
      rcases h.answerTo hx f with ⟨a, ha, answer, o₁, hkey, hreply, hanswer, hbooks₁⟩ |
        ⟨reply, o₁, hreplies, hanswer, hbooks₁⟩
      · obtain ⟨outcome, rest', made, o', hrun, hbooks, hstory⟩ := ih hbooks₁
        exact ⟨outcome, x.explained f answer :: rest', made, o', explain_answered hf hanswer hrun,
          hbooks, .recalled hf ha hkey hreply hstory⟩
      · cases reply with
        | error cause =>
          exact ⟨_, f :: rest, _, o₁, explain_refused hf hanswer, hbooks₁, .refused hf hreplies⟩
        | ok answer =>
          obtain ⟨outcome, rest', made, o', hrun, hbooks, hstory⟩ := ih hbooks₁
          refine ⟨outcome, x.explained f answer :: rest', _, o', explain_answered hf hanswer hrun, ?_,
            .asked hf hreplies hstory⟩
          rwa [List.append_assoc] at hbooks

/-- **Every answer has a source.** -/
theorem session_sourced (sessions : List (Explainer (StateM σ) × List Finding))
    (hx : ∀ c ∈ sessions, c.1.Truthful view) (h : Books view past o) :
    ∃ results made o', (session (watched sessions)).run o = (results, o') ∧
      Books view (past ++ made) o' ∧ AllSourced SameKey past sessions made results := by
  induction sessions generalizing past o with
  | nil => exact ⟨[], [], o, rfl, by rwa [List.append_nil], .done past⟩
  | cons c rest ih =>
    obtain ⟨outcome, findings', made, o₁, hrun, hbooks₁, hstory⟩ :=
      explain_sourced (hx c List.mem_cons_self) c.2 h
    obtain ⟨results, more, o', hrest, hbooks, hstories⟩ :=
      ih (fun c' hc' => hx c' (List.mem_cons_of_mem c hc')) hbooks₁
    refine ⟨(outcome, findings') :: results, made ++ more, o', ?_, ?_, .next hstory hstories⟩
    · exact (run_bind_of_run hrun).trans (run_bind_of_run hrest)
    · rwa [List.append_assoc] at hbooks

/-! ## 4. Other relations -/

section

variable {R R' : Request → Request → Prop} {P : Request → Prop} {made : List (Asked σ)}
  {findings findings' : List Finding} {outcome : Except ExplainError Unit}

/-- Every call is made for one of the findings, and its reply is one of the completer's. -/
theorem Sourced.of_mem (h : Sourced R x past findings made outcome findings') {a : Asked σ}
    (ha : a ∈ made) :
    ∃ f ∈ findings, ∃ reply, f.hasFailures = true ∧ a = ⟨x, f, reply⟩ ∧ x.Replies f reply := by
  induction h with
  | done => cases ha
  | clean _ _ ih =>
    obtain ⟨f, hf, hcall⟩ := ih ha
    exact ⟨f, List.mem_cons_of_mem _ hf, hcall⟩
  | recalled _ _ _ _ _ ih =>
    obtain ⟨f, hf, hcall⟩ := ih ha
    exact ⟨f, List.mem_cons_of_mem _ hf, hcall⟩
  | asked hf given _ ih =>
    rcases List.mem_cons.mp ha with rfl | ha
    · exact ⟨_, List.mem_cons_self, _, hf, rfl, given⟩
    · obtain ⟨f, hf, hcall⟩ := ih ha
      exact ⟨f, List.mem_cons_of_mem _ hf, hcall⟩
  | refused hf given =>
    obtain rfl := List.mem_singleton.mp ha
    exact ⟨_, List.mem_cons_self, _, hf, rfl, given⟩

/-- Only requests that occur have to be related otherwise. -/
theorem Sourced.imp (h : Sourced R x past findings made outcome findings')
    (hR : ∀ r r', P r → P r' → R r r' → R' r r') (hpast : ∀ a ∈ past, P a.request)
    (hfindings : ∀ f ∈ findings, f.hasFailures = true → P (x.request f)) :
    Sourced R' x past findings made outcome findings' := by
  induction h with
  | done past => exact .done past
  | clean hf _ ih => exact .clean hf (ih hpast (List.forall_mem_cons.mp hfindings).2)
  | recalled hf known related given _ ih =>
    obtain ⟨hhere, hrest⟩ := List.forall_mem_cons.mp hfindings
    exact .recalled hf known (hR _ _ (hpast _ known) (hhere hf) related) given (ih hpast hrest)
  | asked hf given _ ih =>
    obtain ⟨hhere, hrest⟩ := List.forall_mem_cons.mp hfindings
    refine .asked hf given (ih ?_ hrest)
    intro a ha
    rcases List.mem_append.mp ha with ha | ha
    · exact hpast a ha
    · obtain rfl := List.mem_singleton.mp ha
      exact hhere hf
  | refused hf given => exact .refused hf given

theorem AllSourced.imp {sessions : List (Explainer (StateM σ) × List Finding)}
    {results : List (Except ExplainError Unit × List Finding)}
    (h : AllSourced R past sessions made results) (hR : ∀ r r', P r → P r' → R r r' → R' r r')
    (hpast : ∀ a ∈ past, P a.request)
    (hsessions : ∀ c ∈ sessions, ∀ f ∈ c.2, f.hasFailures = true → P (c.1.request f)) :
    AllSourced R' past sessions made results := by
  induction h with
  | done past => exact .done past
  | next first _ ih =>
    obtain ⟨hhere, hrest⟩ := List.forall_mem_cons.mp hsessions
    refine .next (first.imp hR hpast hhere) (ih ?_ hrest)
    intro a ha
    rcases List.mem_append.mp ha with ha | ha
    · exact hpast a ha
    · obtain ⟨f, hf, reply, hfailing, rfl, -⟩ := first.of_mem ha
      exact hhere f hf hfailing

end

end Explainer
end ClusterTriage
