import ClusterTriage.Explanation.Explain

/-!
# Watching an explainer

Which prompts leave the process, which keys are looked up and what is put into the cache is nothing
that an explainer returns. It is what the explainer does on the way, so statements about it need a
witness who writes it down. That witness stands between the explainer and the two things it talks to:
an `Observed` world has a log beside it, and the observed cache and the observed completer do what
the originals do and add a line. The explainer itself is the same code, at another monad.

> **Watching changes nothing**: an observed run has the result and the world of the run that nobody
> watches (`Explainer.observed_explain`, `Explainer.observed_session`).

So whatever is proved of the log is a fact about `Explainer.explain`.
-/

namespace ClusterTriage

/-! ## 1. The log -/

/-- What an explainer does outside itself. -/
inductive Event where
  | lookedUp (key : String) (found : Bool)
  | loaded (key : String)
  /-- The completer was asked, and this was its reply. The key is the one that was looked up before. -/
  | asked (key prompt : String) (reply : Except CompletionError String)
  | stored (key payload : String)

/-- A call of the completer: the key it was for, and the reply. -/
abbrev Call := String × Except CompletionError String

/-- The call that an event is, if it is one. -/
def Event.call? : Event → Option Call
  | .asked key _ reply => some (key, reply)
  | _ => none

/-- The key and the payload that an event stores, if it stores one. -/
def Event.stored? : Event → Option (String × String)
  | .stored key payload => some (key, payload)
  | _ => none

/-- A world and a record of what was done in it. -/
structure Observed (σ : Type) where
  world : σ
  /-- The key that was looked up last. -/
  key : String := ""
  log : List Event := []

namespace Observed

variable {σ : Type}

/-- The calls of the completer, in their order. -/
def calls (o : Observed σ) : List Call := o.log.filterMap Event.call?

/-- What was put into the cache, in its order. -/
def stored (o : Observed σ) : List (String × String) := o.log.filterMap Event.stored?

/-- Does something in the world, and leaves the record alone. -/
def within {α : Type} (x : StateM σ α) : StateM (Observed σ) α := fun o =>
  let (a, w) := x.run o.world
  (a, { o with world := w })

/-- Adds a line to the record. -/
def note (e : Event) : StateM (Observed σ) Unit := modify fun o => { o with log := o.log ++ [e] }

end Observed

/-! ## 2. Watching -/

section

variable {σ : Type}

/-- A cache with somebody watching. -/
def Cache.observed (c : Cache (StateM σ)) : Cache (StateM (Observed σ)) where
  name := c.name
  disabled := c.disabled
  contains key := do
    let found ← Observed.within (c.contains key)
    modify fun o => { o with key }
    Observed.note (.lookedUp key found)
    return found
  load key := do
    let payload ← Observed.within (c.load key)
    Observed.note (.loaded key)
    return payload
  store key payload := do
    let outcome ← Observed.within (c.store key payload)
    Observed.note (.stored key payload)
    return outcome

/-- A completer with somebody watching. -/
def Completer.observed (c : Completer (StateM σ)) : Completer (StateM (Observed σ)) where
  name := c.name
  ask prompt := do
    let reply ← Observed.within (c.ask prompt)
    Observed.note (.asked (← get).key prompt reply)
    return reply
  close := Observed.within c.close

/-- An explainer with somebody watching. -/
def Explainer.observed (x : Explainer (StateM σ)) : Explainer (StateM (Observed σ)) where
  completer := x.completer.observed
  cache := x.cache.observed
  templates := x.templates
  language := x.language
  anonymize := x.anonymize

end

/-- Explanations one after another, by explainers that may differ in everything. -/
def Explainer.session {m : Type → Type} [Monad m] :
    List (Explainer m × List Finding) → m (List (Except ExplainError Unit × List Finding))
  | [] => return []
  | (x, findings) :: rest => do
    let result ← x.explain findings
    let results ← session rest
    return result :: results

/-! ## 3. What is written down -/

/-- The rest of a computation starts where its first part ends. -/
theorem run_bind_of_run {σ α β : Type} {x : StateM σ α} {f : α → StateM σ β} {s s' : σ} {a : α}
    (h : x.run s = (a, s')) : (x >>= f).run s = (f a).run s' := by
  show (f (x.run s).1).run (x.run s).2 = _
  rw [h]

section

variable {σ : Type} {o : Observed σ} {w : σ}

theorem Observed.within_run {α : Type} {x : StateM σ α} {a : α} (h : x.run o.world = (a, w)) :
    (Observed.within x).run o = (a, { o with world := w }) := by
  show ((x.run o.world).1, { o with world := (x.run o.world).2 }) = _
  rw [h]

theorem Cache.observed_contains_run {c : Cache (StateM σ)} {key : String} {found : Bool}
    (h : (c.contains key).run o.world = (found, w)) :
    (c.observed.contains key).run o = (found, ⟨w, key, o.log ++ [.lookedUp key found]⟩) :=
  run_bind_of_run (Observed.within_run h)

theorem Cache.observed_load_run {c : Cache (StateM σ)} {key : String}
    {payload : Except CacheError String} (h : (c.load key).run o.world = (payload, w)) :
    (c.observed.load key).run o = (payload, ⟨w, o.key, o.log ++ [.loaded key]⟩) :=
  run_bind_of_run (Observed.within_run h)

theorem Cache.observed_store_run {c : Cache (StateM σ)} {key payload : String}
    {outcome : Except CacheError Unit} (h : (c.store key payload).run o.world = (outcome, w)) :
    (c.observed.store key payload).run o =
      (outcome, ⟨w, o.key, o.log ++ [.stored key payload]⟩) :=
  run_bind_of_run (Observed.within_run h)

theorem Completer.observed_ask_run {c : Completer (StateM σ)} {prompt : String}
    {reply : Except CompletionError String} (h : (c.ask prompt).run o.world = (reply, w)) :
    (c.observed.ask prompt).run o = (reply, ⟨w, o.key, o.log ++ [.asked o.key prompt reply]⟩) :=
  run_bind_of_run (Observed.within_run h)

end

/-! ## 4. Watching changes nothing -/

variable {σ α β : Type}

/-- `y` does in an observed world what `x` does in the world, and only adds to the record. -/
def Mirrors (y : StateM (Observed σ) α) (x : StateM σ α) : Prop :=
  ∀ o, ∃ key new, y.run o = ((x.run o.world).1, ⟨(x.run o.world).2, key, o.log ++ new⟩)

theorem Mirrors.pure (a : α) : Mirrors (σ := σ) (Pure.pure a) (Pure.pure a) :=
  fun o => ⟨o.key, [], by rw [List.append_nil]; rfl⟩

theorem Mirrors.bind {y : StateM (Observed σ) α} {x : StateM σ α} (h : Mirrors y x)
    {g : α → StateM (Observed σ) β} {f : α → StateM σ β} (hnext : ∀ a, Mirrors (g a) (f a)) :
    Mirrors (y >>= g) (x >>= f) := by
  intro o
  obtain ⟨key, new, hy⟩ := h o
  obtain ⟨key', new', hg⟩ := hnext (x.run o.world).1 ⟨(x.run o.world).2, key, o.log ++ new⟩
  refine ⟨key', new ++ new', ?_⟩
  rw [← List.append_assoc]
  show ((y.run o).1 |> g).run (y.run o).2 = _
  rw [hy]
  exact hg

/-- What happened under observation happens without. -/
theorem Mirrors.unwatched {y : StateM (Observed σ) α} {x : StateM σ α} (h : Mirrors y x) {w : σ}
    {a : α} {o : Observed σ} (hrun : y.run { world := w } = (a, o)) : x.run w = (a, o.world) := by
  obtain ⟨key, new, hmirror⟩ := h { world := w }
  rw [hrun] at hmirror
  obtain ⟨rfl, rfl⟩ := Prod.mk.inj hmirror
  rfl

theorem Mirrors.observed_contains (c : Cache (StateM σ)) (key : String) :
    Mirrors (c.observed.contains key) (c.contains key) := fun _ => ⟨key, _, rfl⟩

theorem Mirrors.observed_load (c : Cache (StateM σ)) (key : String) :
    Mirrors (c.observed.load key) (c.load key) := fun o => ⟨o.key, _, rfl⟩

theorem Mirrors.observed_store (c : Cache (StateM σ)) (key payload : String) :
    Mirrors (c.observed.store key payload) (c.store key payload) := fun o => ⟨o.key, _, rfl⟩

theorem Mirrors.observed_ask (c : Completer (StateM σ)) (prompt : String) :
    Mirrors (c.observed.ask prompt) (c.ask prompt) := fun o => ⟨o.key, _, rfl⟩

namespace Explainer

variable (x : Explainer (StateM σ))

theorem observed_cached? (key : String) : Mirrors (x.observed.cached? key) (x.cached? key) := by
  unfold cached?
  show Mirrors (if x.cache.disabled then _ else _) _
  split
  · exact .pure none
  · -- the two go side by side, one request at a time
    refine .bind (.observed_contains x.cache key) fun found => ?_
    cases found with
    | false => exact .pure none
    | true =>
      refine .bind (.observed_load x.cache key) fun payload => ?_
      cases payload with
      | ok payload => exact .pure _
      | error e => exact .pure none

theorem observed_keep (key answer : String) :
    Mirrors (x.observed.keep key answer) (x.keep key answer) := by
  unfold keep
  show Mirrors (if x.cache.disabled then _ else _) _
  split
  · exact .pure ()
  · exact .bind (.observed_store x.cache key _) fun _ => .pure ()

theorem observed_answer (kind input : String) :
    Mirrors (x.observed.answer kind input) (x.answer kind input) := by
  unfold answer
  refine .bind (x.observed_cached? _) fun found => ?_
  cases found with
  | some answer => exact .pure _
  | none =>
    refine .bind (.observed_ask x.completer _) fun reply => ?_
    cases reply with
    | error cause => exact .pure _
    | ok answer => exact .bind (x.observed_keep _ answer) fun _ => .pure _

/-- **Watching changes nothing** about an explanation. -/
theorem observed_explain (findings : List Finding) :
    Mirrors (x.observed.explain findings) (x.explain findings) := by
  induction findings with
  | nil => exact .pure _
  | cons f rest ih =>
    unfold explain
    split
    · refine .bind (x.observed_answer f.kind _) fun reply => ?_
      cases reply with
      | error e => exact .pure _
      | ok answer => exact .bind ih fun _ => .pure _
    · exact .bind ih fun _ => .pure _

/-- A run and what is written down about it. -/
theorem exists_observed_run (findings : List Finding) (w : σ) :
    ∃ outcome explained o, (x.explain findings).run w = ((outcome, explained), o.world) ∧
      (x.observed.explain findings).run { world := w } = ((outcome, explained), o) := by
  obtain ⟨key, lines, hmirror⟩ := x.observed_explain findings { world := w }
  cases hrun : (x.explain findings).run w with
  | mk result w' =>
    rw [hrun] at hmirror
    exact ⟨result.1, result.2, _, rfl, hmirror⟩

/-- The same calls with somebody watching. -/
abbrev watched (calls : List (Explainer (StateM σ) × List Finding)) :
    List (Explainer (StateM (Observed σ)) × List Finding) :=
  calls.map fun c => (c.1.observed, c.2)

/-- **Watching changes nothing** about a session. -/
theorem observed_session (calls : List (Explainer (StateM σ) × List Finding)) :
    Mirrors (session (watched calls)) (session calls) := by
  induction calls with
  | nil => exact .pure _
  | cons c rest ih => exact .bind (c.1.observed_explain c.2) fun _ => .bind ih fun _ => .pure _

end Explainer
end ClusterTriage
