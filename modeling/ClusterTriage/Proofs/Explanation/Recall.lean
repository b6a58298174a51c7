import ClusterTriage.Proofs.Cache.Lawful
import ClusterTriage.Proofs.Explanation.History
import ClusterTriage.Proofs.Explanation.Pass

/-!
# Nothing is asked twice

Explainers that share a cache share what the completers said. A run has to be followed through hits,
misses, damaged payloads and refusals without losing count of who was asked for what, and the list of
calls does the counting: what is known at any time is what the entries of the beginning and the calls
since then amount to. `Explained` and `Served` are explanations told that way, without a cache and
without a world:

> **A run is one of these stories** (`explain_run`, `session_run`), and in all of them the calls are
> `Fresh`.
-/

namespace ClusterTriage

namespace Explainer

variable {σ : Type} {view : σ → String → Option String} {x : Explainer (StateM σ)}

/-! ## 1. One request -/

/-- An explainer whose cache is a working one, and whose completer keeps its hands off it. -/
structure Shares (x : Explainer (StateM σ)) (view : σ → String → Option String) : Prop where
  lawful : x.cache.Lawful view
  apart (prompt : String) (w : σ) : view ((x.completer.ask prompt).run w).2 = view w

/-- From `o` to `o'` exactly the given calls were made, and each success among them was stored. -/
structure Progress (view : σ → String → Option String) (o : Observed σ) (made : List Call)
    (o' : Observed σ) : Prop where
  entries : view o'.world = keepCalls (view o.world) made
  calls : o'.calls = o.calls ++ made
  stored : o'.stored = o.stored ++ made.filterMap payloadOf?

variable {o o' o'' : Observed σ} {made more : List Call}

/-- What was done is what was written down. -/
theorem Progress.of_log {lines : List Event} (hlog : o'.log = o.log ++ lines)
    (hcalls : lines.filterMap Event.call? = made)
    (hstored : lines.filterMap Event.stored? = made.filterMap payloadOf?)
    (hentries : view o'.world = keepCalls (view o.world) made) : Progress view o made o' where
  entries := hentries
  calls := by rw [Observed.calls, hlog, List.filterMap_append, hcalls, ← Observed.calls]
  stored := by rw [Observed.stored, hlog, List.filterMap_append, hstored, ← Observed.stored]

theorem Progress.refl (o : Observed σ) : Progress view o [] o :=
  ⟨rfl, (List.append_nil _).symm, (List.append_nil _).symm⟩

theorem Progress.trans (h : Progress view o made o') (hmore : Progress view o' more o'') :
    Progress view o (made ++ more) o'' where
  entries := by rw [hmore.entries, h.entries, keepCalls, keepCalls, ← List.foldl_append]
  calls := by rw [hmore.calls, h.calls, List.append_assoc]
  stored := by rw [hmore.stored, h.stored, List.filterMap_append, List.append_assoc]

/-- What the cache has is found, and looking changes nothing. -/
theorem cached?_run (h : x.Shares view) (key : String) (o : Observed σ) :
    ∃ o', (x.observed.cached? key).run o = (usable (view o.world) key, o') ∧
      Progress view o [] o' ∧ o'.key = key := by
  have hon : x.observed.cache.disabled = false := h.lawful.enabled
  obtain ⟨w, hcontains, hview⟩ := h.lawful.contains key o.world
  have hlook : (x.observed.cache.contains key).run o = _ := Cache.observed_contains_run hcontains
  unfold cached?
  rw [if_neg (by simp [hon]), run_bind_of_run hlook]
  cases hentry : view o.world key with
  | none =>
    refine ⟨⟨w, key, o.log ++ [.lookedUp key false]⟩, ?_, .of_log rfl rfl rfl hview, rfl⟩
    rw [usable, hentry]
    rfl
  | some payload =>
    -- looking up may have changed the world, but not what it has under the key
    obtain ⟨w', hpayload, hview'⟩ := h.lawful.load key payload w (by rw [hview, hentry])
    have hload := Cache.observed_load_run (o := ⟨w, key, o.log ++ [.lookedUp key true]⟩) hpayload
    refine ⟨⟨w', key, o.log ++ [.lookedUp key true] ++ [.loaded key]⟩, ?_,
      .of_log (List.append_assoc _ _ _) rfl rfl (hview'.trans hview), rfl⟩
    rw [usable, hentry]
    exact run_bind_of_run hload

/-- Keeping an answer sets the entry of its key. -/
theorem keep_run (h : x.Shares view) (key answer : String) (o : Observed σ) :
    ∃ w, (x.observed.keep key answer).run o =
        ((), ⟨w, o.key, o.log ++ [.stored key (encodePayload answer)]⟩) ∧
      view w = Function.update (view o.world) key (some (encodePayload answer)) := by
  have hon : x.observed.cache.disabled = false := h.lawful.enabled
  obtain ⟨w, hstored, hview⟩ := h.lawful.store key (encodePayload answer) o.world
  refine ⟨w, ?_, hview⟩
  unfold keep
  rw [if_neg (by simp [hon])]
  exact run_bind_of_run (Cache.observed_store_run hstored)

/-- Something known is the answer, and nobody is asked. -/
theorem answer_known (h : x.Shares view) (kind : String) {input answer : String} (o : Observed σ)
    (hknown : usable (view o.world) (x.key input) = some answer) :
    ∃ o', (x.observed.answer kind input).run o = (.ok answer, o') ∧ Progress view o [] o' := by
  obtain ⟨o', hrun, hprogress, -⟩ := cached?_run h (x.key input) o
  rw [hknown] at hrun
  exact ⟨o', run_bind_of_run hrun, hprogress⟩

/-- What an explainer makes of a reply. -/
def ofReply (x : Explainer (StateM σ)) : Except CompletionError String → Except ExplainError String
  | .ok answer => .ok answer
  | .error cause => .error (.classify x.completer.name cause)

/-- Otherwise the completer is asked once. An answer of it is the answer, and it is kept. -/
theorem answer_asked (h : x.Shares view) (kind : String) {input : String} (o : Observed σ)
    (hunknown : usable (view o.world) (x.key input) = none) :
    ∃ reply o', (x.observed.answer kind input).run o = (x.ofReply reply, o') ∧
      Progress view o [(x.key input, reply)] o' := by
  obtain ⟨o₁, hrun, hprogress, hkey⟩ := cached?_run h (x.key input) o
  rw [hunknown] at hrun
  have hapart := h.apart (x.templates.render kind x.language input) o₁.world
  cases hreply : (x.completer.ask (x.templates.render kind x.language input)).run o₁.world with
  | mk reply w =>
    have hask := Completer.observed_ask_run hreply
    rw [hkey] at hask
    rw [hreply] at hapart
    cases reply with
    | error cause =>
      refine ⟨.error cause, _, (run_bind_of_run hrun).trans (run_bind_of_run hask), ?_⟩
      exact hprogress.trans (.of_log rfl rfl rfl hapart)
    | ok answer =>
      obtain ⟨w', hkeep, hview⟩ := keep_run h (x.key input) answer _
      refine ⟨.ok answer, _, (run_bind_of_run hrun).trans
        ((run_bind_of_run hask).trans (run_bind_of_run hkeep)), ?_⟩
      refine hprogress.trans (.of_log (List.append_assoc _ _ _) rfl rfl ?_)
      rw [hview]
      exact congrArg (Function.update · (x.key input) (some (encodePayload answer))) hapart

/-! ## 2. The story of an explanation -/

/-- The key under which a finding is explained. -/
def keyOf (x : Explainer (StateM σ)) (f : Finding) : String :=
  x.key (x.wording f)

/-- What an explanation does, told from the entries that it finds: the calls it makes, how it ends and
what becomes of the findings. -/
inductive Explained (x : Explainer (StateM σ)) : (String → Option String) → List Finding →
    List Call → Except ExplainError Unit → List Finding → Prop where
  | done (entries : String → Option String) : Explained x entries [] [] (.ok ()) []
  /-- There is nothing to explain. -/
  | clean {entries : String → Option String} {f : Finding} {rest rest' : List Finding}
      {calls : List Call} {outcome : Except ExplainError Unit} (h : f.hasFailures = false)
      (next : Explained x entries rest calls outcome rest') :
      Explained x entries (f :: rest) calls outcome (f :: rest')
  /-- The answer is known, and nobody is asked. -/
  | recalled {entries : String → Option String} {f : Finding} {rest rest' : List Finding}
      {calls : List Call} {outcome : Except ExplainError Unit} {answer : String}
      (h : f.hasFailures = true) (known : usable entries (x.keyOf f) = some answer)
      (next : Explained x entries rest calls outcome rest') :
      Explained x entries (f :: rest) calls outcome (x.explained f answer :: rest')
  /-- Nothing usable is known, and the completer answers. -/
  | asked {entries : String → Option String} {f : Finding} {rest rest' : List Finding}
      {calls : List Call} {outcome : Except ExplainError Unit} {answer : String}
      (h : f.hasFailures = true) (unknown : usable entries (x.keyOf f) = none)
      (next : Explained x (keepCall entries (x.keyOf f, .ok answer)) rest calls outcome rest') :
      Explained x entries (f :: rest) ((x.keyOf f, .ok answer) :: calls) outcome
        (x.explained f answer :: rest')
  /-- Nothing usable is known, and the completer refuses. That is the end. -/
  | refused {entries : String → Option String} {f : Finding} {rest : List Finding}
      {cause : CompletionError} (h : f.hasFailures = true)
      (unknown : usable entries (x.keyOf f) = none) :
      Explained x entries (f :: rest) [(x.keyOf f, .error cause)]
        (.error (.classify x.completer.name cause)) (f :: rest)

/-- Explanations one after another, each finding the entries that the ones before it left. -/
inductive Served : (String → Option String) → List (Explainer (StateM σ) × List Finding) →
    List Call → List (Except ExplainError Unit × List Finding) → Prop where
  | done (entries : String → Option String) : Served entries [] [] []
  | next {entries : String → Option String} {x : Explainer (StateM σ)} {findings : List Finding}
      {rest : List (Explainer (StateM σ) × List Finding)} {calls more : List Call}
      {outcome : Except ExplainError Unit} {findings' : List Finding}
      {results : List (Except ExplainError Unit × List Finding)}
      (first : Explained x entries findings calls outcome findings')
      (others : Served (keepCalls entries calls) rest more results) :
      Served entries ((x, findings) :: rest) (calls ++ more) ((outcome, findings') :: results)

/-- **An explanation is one of these stories.** The case split is that of the code, with a finding's
request settled by what is known under its key. -/
theorem explain_run (h : x.Shares view) (findings : List Finding) (o : Observed σ) :
    ∃ outcome findings' made o',
      (x.observed.explain findings).run o = ((outcome, findings'), o') ∧
      Progress view o made o' ∧ Explained x (view o.world) findings made outcome findings' := by
  induction findings generalizing o with
  | nil => exact ⟨.ok (), [], [], o, rfl, .refl o, .done _⟩
  | cons f rest ih =>
    cases hf : f.hasFailures with
    | false =>
      obtain ⟨outcome, rest', made, o', hrun, hprogress, hstory⟩ := ih o
      exact ⟨outcome, f :: rest', made, o', explain_clean hf hrun, hprogress, .clean hf hstory⟩
    | true =>
      cases hknown : usable (view o.world) (x.keyOf f) with
      | some answer =>
        obtain ⟨o₁, hanswer, hfirst⟩ := answer_known h f.kind o hknown
        obtain ⟨outcome, rest', made, o', hrun, hprogress, hstory⟩ := ih o₁
        rw [hfirst.entries] at hstory
        exact ⟨outcome, x.explained f answer :: rest', made, o', explain_answered hf hanswer hrun,
          hfirst.trans hprogress, .recalled hf hknown hstory⟩
      | none =>
        obtain ⟨reply, o₁, hanswer, hfirst⟩ := answer_asked h f.kind o hknown
        cases reply with
        | error cause =>
          exact ⟨_, f :: rest, _, o₁, explain_refused hf hanswer, hfirst, .refused hf hknown⟩
        | ok answer =>
          obtain ⟨outcome, rest', made, o', hrun, hprogress, hstory⟩ := ih o₁
          rw [hfirst.entries] at hstory
          exact ⟨outcome, x.explained f answer :: rest', _, o', explain_answered hf hanswer hrun,
            hfirst.trans hprogress, .asked hf hknown hstory⟩

/-- **A session is one of these stories.** -/
theorem session_run (sessions : List (Explainer (StateM σ) × List Finding))
    (h : ∀ c ∈ sessions, c.1.Shares view) (o : Observed σ) :
    ∃ results made o', (session (watched sessions)).run o = (results, o') ∧
      Progress view o made o' ∧ Served (view o.world) sessions made results := by
  induction sessions generalizing o with
  | nil => exact ⟨[], [], o, rfl, .refl o, .done _⟩
  | cons c rest ih =>
    obtain ⟨x, findings⟩ := c
    obtain ⟨outcome, findings', made, o₁, hrun, hprogress, hstory⟩ :=
      explain_run (h _ List.mem_cons_self) findings o
    obtain ⟨results, more, o', hrest, hmore, hothers⟩ :=
      ih (fun c hc => h c (List.mem_cons_of_mem _ hc)) o₁
    refine ⟨_, _, o', (run_bind_of_run hrun).trans (run_bind_of_run hrest),
      hprogress.trans hmore, ?_⟩
    rw [hprogress.entries] at hothers
    exact .next hstory hothers

/-! ## 3. What the stories have in common -/

section

variable {entries known : String → Option String} {findings findings' : List Finding}
  {calls log : List Call} {outcome : Except ExplainError Unit}

theorem Explained.fresh (h : Explained x entries findings calls outcome findings') :
    Fresh entries calls := by
  induction h with
  | done entries => exact .nil entries
  | clean _ _ ih | recalled _ _ _ ih => exact ih
  | asked _ unknown _ ih => exact .call unknown ih
  | refused _ unknown => exact .call unknown (.nil _)

theorem Served.fresh {sessions : List (Explainer (StateM σ) × List Finding)}
    {results : List (Except ExplainError Unit × List Finding)}
    (h : Served entries sessions calls results) : Fresh entries calls := by
  induction h with
  | done entries => exact .nil entries
  | next first _ ih => exact first.fresh.append ih

/-- What a finding becomes once it is known what there is to say about it. -/
def settle (x : Explainer (StateM σ)) (known : String → Option String) (f : Finding) : Finding :=
  match f.hasFailures, known (x.keyOf f) with
  | true, some answer => x.explained f answer
  | _, _ => f

/-- The findings of an explanation, seen from the end of the day. Up to some finding all those with
failures have the answer that is known under their key; from there on nothing has changed. Unless
that is all of them, the completer was called for the next one and refused. -/
inductive Settled (x : Explainer (StateM σ)) (known : String → Option String) (log : List Call) :
    List Finding → Except ExplainError Unit × List Finding → Prop where
  | all {findings : List Finding}
      (answered : ∀ f ∈ findings, f.hasFailures = true → (known (x.keyOf f)).isSome) :
      Settled x known log findings (.ok (), findings.map (x.settle known))
  | upTo (done : List Finding) {f : Finding} {rest : List Finding} {cause : CompletionError}
      (answered : ∀ f ∈ done, f.hasFailures = true → (known (x.keyOf f)).isSome)
      (failing : f.hasFailures = true) (called : (x.keyOf f, .error cause) ∈ log) :
      Settled x known log (done ++ f :: rest)
        (.error (.classify x.completer.name cause), done.map (x.settle known) ++ f :: rest)

theorem Settled.cons {f : Finding} (hf : f.hasFailures = true → (known (x.keyOf f)).isSome)
    (h : Settled x known log findings (outcome, findings')) :
    Settled x known log (f :: findings) (outcome, x.settle known f :: findings') := by
  cases h with
  | all answered => exact .all (List.forall_mem_cons.mpr ⟨hf, answered⟩)
  | upTo done answered failing called =>
    exact .upTo (f :: done) (List.forall_mem_cons.mpr ⟨hf, answered⟩) failing called

theorem settle_of_known {f : Finding} {answer : String} (hf : f.hasFailures = true)
    (h : known (x.keyOf f) = some answer) : x.settle known f = x.explained f answer := by
  rw [settle, hf, h]

theorem settle_of_clean {f : Finding} (hf : f.hasFailures = false) : x.settle known f = f := by
  rw [settle, hf]

/-- A story looks the same from the end of the day: what was known once is still known. -/
theorem Explained.settled (h : Explained x entries findings calls outcome findings')
    (hknown : ∀ key answer, usable (keepCalls entries calls) key = some answer →
      known key = some answer)
    (hlog : ∀ c ∈ calls, c ∈ log) : Settled x known log findings (outcome, findings') := by
  induction h with
  | done entries => exact .all (by simp)
  | @clean entries f rest rest' calls outcome hf next ih =>
    have hcons := Settled.cons (f := f) (by simp [hf]) (ih hknown hlog)
    rwa [settle_of_clean hf] at hcons
  | @recalled entries f rest rest' calls outcome answer hf hrecalled next ih =>
    have hstill := hknown _ _ (next.fresh.usable_mono hrecalled)
    have hcons := Settled.cons (f := f) (by simp [hstill]) (ih hknown hlog)
    rwa [settle_of_known hf hstill] at hcons
  | @asked entries f rest rest' calls outcome answer hf _ next ih =>
    have hstill := hknown _ _ (next.fresh.usable_mono usable_keepCall_ok)
    have hcons := Settled.cons (f := f) (by simp [hstill])
      (ih hknown fun c hc => hlog c (List.mem_cons_of_mem _ hc))
    rwa [settle_of_known hf hstill] at hcons
  | refused hf _ => exact .upTo [] (by simp) hf (hlog _ List.mem_cons_self)

theorem Served.settled {sessions : List (Explainer (StateM σ) × List Finding)}
    {results : List (Except ExplainError Unit × List Finding)}
    (h : Served entries sessions calls results)
    (hknown : ∀ key answer, usable (keepCalls entries calls) key = some answer →
      known key = some answer)
    (hlog : ∀ c ∈ calls, c ∈ log) :
    List.Forall₂ (fun c result => Settled c.1 known log c.2 result) sessions results := by
  induction h with
  | done entries => exact .nil
  | @next entries x findings rest calls more outcome findings' results first others ih =>
    -- what the first explanation knew is still known after the others
    rw [keepCalls, List.foldl_append] at hknown
    refine .cons ?_ (ih hknown fun c hc => hlog c (List.mem_append_right _ hc))
    exact first.settled (fun key answer hk => hknown key answer (others.fresh.usable_mono hk))
      fun c hc => hlog c (List.mem_append_left _ hc)

end

/-! ## 4. Sharing a cache -/

/-- **Identical requests reach the completer once.** Explainers share a cache and explain whatever
they are given, each with its own completer, templates and language, and the completers may answer
and refuse as they like. Then somebody watching sees the story that `Served` tells: the calls that
are made have the history of a good memory, and every explanation has given every finding what is
known under its key in the end, up to where a completer refused. What entries have to say under a key is
the text whose base64 they have there, and the key of a finding is that of the texts of its failures, each
with its own names masked if names are masked. A finding gets what is known as it is or, where names are
masked, with the masks of all its failures taken off. -/
theorem identical_requests_reach_the_completer_once
    (sessions : List (Explainer (StateM σ) × List Finding)) (w : σ)
    (h : ∀ c ∈ sessions, c.1.Shares view) :
    (∀ (entries : String → Option String) (key answer : String), usable entries key = some answer ↔
      ∃ payload bytes, entries key = some payload ∧
        Encoding.Base64.decode (Text.trim payload.toList) = some bytes ∧
        Text.Utf8.decode bytes = .ok answer) ∧
    (∀ (x : Explainer (StateM σ)) (f : Finding),
      x.keyOf f = Cache.key x.completer.name x.language (" ".intercalate
        (f.failures.map fun g => if x.anonymize then Redaction.mask g.sensitive g.text else g.text)) ∧
      ∀ known, (f.failures = [] → x.settle known f = f) ∧
        ∀ answer, f.failures ≠ [] → known (x.keyOf f) = some answer →
          x.settle known f = { f with
            details := some
              (if x.anonymize then Redaction.unmask (f.failures.flatMap Failure.sensitive) answer
                else answer) }) ∧
    ∃ results o,
      (session sessions).run w = (results, o.world) ∧
      (session (watched sessions)).run { world := w } = (results, o) ∧
      Served (view w) sessions o.calls results ∧
      History (view w) o.calls o.stored (view o.world) ∧
      List.Forall₂ (fun c result => Settled c.1 (usable (view o.world)) o.calls c.2 result)
        sessions results := by
  refine ⟨fun entries key answer => ?_,
    fun x f => ⟨rfl, fun known => ⟨fun hf => ?_, fun answer hf hknown => ?_⟩⟩, ?_⟩
  · rw [usable_eq_some]
    simp only [Holds, exists_and_left]
  · exact settle_of_clean (by simp [Finding.hasFailures, hf])
  · exact settle_of_known (by simp [Finding.hasFailures, hf]) hknown
  obtain ⟨results, made, o, hrun, hprogress, hstory⟩ := session_run sessions h { world := w }
  have hcalls : o.calls = made := hprogress.calls
  have hstored : o.stored = made.filterMap payloadOf? := hprogress.stored
  have hentries : view o.world = keepCalls (view w) made := hprogress.entries
  refine ⟨results, o, ?_, hrun, ?_, ?_, ?_⟩
  · -- nobody watching makes no difference
    obtain ⟨key, lines, hmirror⟩ := observed_session sessions { world := w }
    rw [hrun] at hmirror
    obtain ⟨rfl, rfl⟩ := Prod.mk.inj hmirror
    rfl
  · rw [hcalls]
    exact hstory
  · rw [hcalls, hstored, hentries]
    exact hstory.fresh.history
  · rw [hcalls, hentries]
    exact hstory.settled (fun _ _ hk => hk) fun _ hc => hc

/-- Three explainers at a cache in memory with a damaged entry. The first question is refused, and any
later one gets its number and a mask for an answer. Who masks and who does not have the same question
where the texts that they send are the same, and the answer to it is unmasked for those who mask. -/
theorem identical_requests_reach_a_counter_once :
    let counter : Completer (StateM (MemoryCache × Nat)) :=
      { name := "openai"
        ask := fun _ => modifyGetThe (MemoryCache × Nat) fun w =>
          (if w.2 = 0 then .error (.refused 429 "slow down") else .ok (toString w.2 ++ ": x7q"),
            (w.1, w.2 + 1))
        close := return () }
    let plain : Explainer (StateM (MemoryCache × Nat)) :=
      { completer := counter, cache := MemoryCache.cache false }
    let masking := { plain with anonymize := true }
    let crash (text : String) (rules : Redaction.Rules) : Finding :=
      { kind := "Pod", name := "default/web", failures := [⟨text, rules, none⟩] }
    let anonymous := crash "x7q crashed" []
    let named := crash "web crashed" [⟨"web", "x7q"⟩]
    let idle : Finding := { kind := "Node", name := "a1" }
    let sessions := [(plain, [anonymous, named]), (masking, [idle, named]), (plain, [anonymous, named])]
    let w : MemoryCache × Nat := (⟨[(plain.keyOf anonymous, "!")], false⟩, 0)
    let refusal := CompletionError.refused 429 "slow down"
    let results :=
      [(.error (.quotaExhausted "openai" refusal), [anonymous, named]),
        (.ok (), [idle, { named with details := some "1: web" }]),
        (.ok (), [{ anonymous with details := some "1: x7q" }, { named with details := some "2: x7q" }])]
    let calls := [(plain.keyOf anonymous, .error refusal), (masking.keyOf named, .ok "1: x7q"),
      (plain.keyOf named, .ok "2: x7q")]
    let stored := [(plain.keyOf anonymous, "MTogeDdx"), (plain.keyOf named, "MjogeDdx")]
    (∀ c ∈ sessions, c.1.Shares fun w => w.1.find?) ∧
      (∀ (entries : String → Option String) (key answer : String), usable entries key = some answer ↔
        ∃ payload bytes, entries key = some payload ∧
          Encoding.Base64.decode (Text.trim payload.toList) = some bytes ∧
          Text.Utf8.decode bytes = .ok answer) ∧
      ∃ o, (session sessions).run w = (results, o.world) ∧
        (session (watched sessions)).run { world := w } = (results, o) ∧
        o.calls = calls ∧ o.stored = stored ∧
        Served w.1.find? sessions o.calls results ∧
        History w.1.find? o.calls o.stored o.world.1.find? ∧
        List.Forall₂ (fun c result => Settled c.1 (usable o.world.1.find?) o.calls c.2 result)
          sessions results := by
  intro counter plain masking crash anonymous named idle sessions w refusal results calls stored
  have hshares : ∀ c ∈ sessions, c.1.Shares fun w => w.1.find? := by
    intro c hc
    have hcache : c.1.cache = MemoryCache.cache false ∧ c.1.completer = counter := by
      simp only [sessions, List.mem_cons, List.not_mem_nil, or_false] at hc
      rcases hc with rfl | rfl | rfl <;> exact ⟨rfl, rfl⟩
    exact ⟨hcache.1 ▸ MemoryCache.lawful Nat, fun prompt w => by rw [hcache.2]; rfl⟩
  obtain ⟨husable, -, results', o, hrun, hwatched, hserved, hhistory, hsettled⟩ :=
    identical_requests_reach_the_completer_once sessions w hshares
  have hseen : ((session (watched sessions)).run { world := w }).1 = results ∧
      ((session (watched sessions)).run { world := w }).2.calls = calls ∧
      ((session (watched sessions)).run { world := w }).2.stored = stored := by
    decide +kernel
  rw [hwatched] at hseen
  obtain ⟨hresults, hcalls, hstored⟩ := hseen
  obtain rfl : results' = results := hresults
  exact ⟨hshares, husable, o, hrun, hwatched, hcalls, hstored, hserved, hhistory, hsettled⟩

end Explainer
end ClusterTriage
