import ClusterTriage.Analyzer.Builtin
import ClusterTriage.Proofs.Explanation.Observed
import ClusterTriage.Run.Store
import Mathlib.Algebra.GroupWithZero.Nat

/-!
# Services, lookup by lookup

Of the built-in analyzers only the one of services asks the cluster again for the objects that it was
given, so it is the only one that can fail with findings in its hands. What it does is a list of
`Lookup`s: services, each with what the cluster said about the addresses behind it. Which lookups there
are and what comes of them does not depend on the cluster beyond these replies.

> **What was found before a failed lookup is kept** (`failed_lookups_keep_earlier_findings`): the outcome
> and what the store gains by it can be read off the lookups, and nothing is asked after one that failed.

That nothing else is asked is a statement about requests, and those go out through the connection of the
context. A `watched` context writes their targets down.
-/

namespace ClusterTriage

variable {σ α β : Type}

/-! ## 1. Requests -/

/-- A connection with somebody writing down the targets of the requests. -/
def Cluster.Connection.watched (c : Cluster.Connection (StateM σ)) :
    Cluster.Connection (StateM (σ × List String)) where
  send target := fun w => (((c.send target).run w.1).1, ((c.send target).run w.1).2, w.2 ++ [target])

/-- A context with somebody writing down the targets of the requests. -/
def Context.watched (x : Context (StateM σ)) : Context (StateM (σ × List String)) where
  connection := x.connection.map Cluster.Connection.watched
  space := x.space
  selector := x.selector
  documentation := x.documentation
  key := x.key

/-- What is sent to ask for an address: nothing, if there is no cluster or the address cannot be. -/
def Context.requests (x : Context (StateM σ)) (uri : String) : List String :=
  if x.connection.isSome then (Cluster.target? uri).toList else []

/-- `y` does what `x` does, and writes down these targets. -/
def Sends (y : StateM (σ × List String) α) (x : StateM σ α) (targets : List String) : Prop :=
  ∀ w seen, y.run (w, seen) = ((x.run w).1, (x.run w).2, seen ++ targets)

namespace Sends

theorem pure (a : α) : Sends (σ := σ) (Pure.pure a) (Pure.pure a) [] := fun w seen => by
  rw [List.append_nil]
  rfl

theorem bind {y : StateM (σ × List String) α} {x : StateM σ α} {first rest : List String}
    (h : Sends y x first) {g : α → StateM (σ × List String) β} {f : α → StateM σ β}
    (hnext : ∀ a, Sends (g a) (f a) rest) : Sends (y >>= g) (x >>= f) (first ++ rest) := by
  intro w seen
  rw [← List.append_assoc]
  exact (run_bind_of_run (h w seen)).trans (hnext _ _ _)

/-- What is done with a reply sends nothing. -/
theorem bind_pure {y : StateM (σ × List String) α} {x : StateM σ α} {targets : List String}
    (h : Sends y x targets) {g : α → StateM (σ × List String) β} {f : α → StateM σ β}
    (hnext : ∀ a, Sends (g a) (f a) []) : Sends (y >>= g) (x >>= f) targets := by
  have hboth := h.bind hnext
  rwa [List.append_nil] at hboth

theorem getText (c : Cluster.Connection (StateM σ)) (uri : String) :
    Sends (c.watched.getText uri) (c.getText uri) (Cluster.target? uri).toList := by
  unfold Cluster.Connection.getText
  cases Cluster.target? uri with
  | none => exact .pure _
  | some target => exact bind_pure (fun w seen => rfl) fun reply => .pure _

theorem get (c : Cluster.Connection (StateM σ)) (decode : Datum → Option α) (uri : String) :
    Sends (c.watched.get decode uri) (c.get decode uri) (Cluster.target? uri).toList := by
  refine bind_pure (getText c uri) fun reply => ?_
  cases reply with
  | error e => exact .pure _
  | ok text =>
    dsimp only
    cases Json.parse text >>= decode <;> exact .pure _

variable (x : Context (StateM σ))

theorem ask {request' : Cluster.Connection (StateM (σ × List String)) → StateM (σ × List String) _}
    {request : Cluster.Connection (StateM σ) → StateM σ (Except Cluster.RequestError α)}
    {targets : List String} (h : ∀ c, Sends (request' c.watched) (request c) targets) :
    Sends (x.watched.ask request') (x.ask request) (if x.connection.isSome then targets else []) := by
  unfold Context.ask Context.watched
  cases x.connection with
  | none => exact .pure _
  | some c => exact bind_pure (h c) fun reply => .pure _

theorem list (k : Cluster.Kind α) : Sends (x.watched.list k) (x.list k)
    (x.requests (Cluster.listUri (Cluster.collection k.root k.plural x.scope) x.selector)) :=
  ask x fun c => get c _ _

theorem find? (k : Cluster.Kind α) (space name : String) :
    Sends (x.watched.find? k space name) (x.find? k space name)
      (if name = "" then []
      else x.requests (Cluster.collection k.root k.plural (some space) ++ "/" ++ name)) := by
  unfold Context.find?
  by_cases hempty : name = ""
  · simp only [if_pos hempty]
    rw [← ite_self (c := x.connection.isSome = true) ([] : List String)]
    exact ask x fun _ => .pure _
  · simp only [if_neg hempty]
    refine ask x fun c => bind_pure (get c k.ofDatum? _) fun reply => ?_
    rcases reply with e | a
    · cases e with
      | refused r => by_cases hr : r.reason = "NotFound" <;> simp only [hr] <;> exact .pure _
      | _ => exact .pure _
    · exact .pure _

end Sends

/-! ## 2. Lookups -/

namespace Analyzer

/-- Whether a service says which pods it stands for. -/
def selects (s : Cluster.Service) : Bool := !s.selector.isEmpty

section

variable {m : Type → Type} [Monad m] (x : Context m)

/-- Asks for what is behind a service. -/
def lookUp (s : Cluster.Service) : m (Except AnalyzerError (Option Cluster.Endpoints)) :=
  x.find? .endpoints (s.metadata.space.getD "default") (s.metadata.name.getD "")

end

/-- A service, and the reply to the question what is behind it. -/
structure Lookup where
  service : Cluster.Service
  reply : Except AnalyzerError (Option Cluster.Endpoints)

namespace Lookup

/-- A finding, if the cluster knows of nothing behind the service or all groups together have no ready
address. -/
def finding? (key : Redaction.Key) (l : Lookup) : Option Finding :=
  match l.reply with
  | .ok none => some (Inspection.service key l.service)
  | .ok (some e) => if e.ready.sum = 0 then some (Inspection.service key l.service) else none
  | .error _ => none

/-- What is sent for a lookup. A service without a name is not worth a request. -/
def requests (x : Context (StateM σ)) (l : Lookup) : List String :=
  if l.service.metadata.name.getD "" = "" then []
  else x.requests <|
    Cluster.collection "/api/v1" "endpoints" (some (l.service.metadata.space.getD "default")) ++
      "/" ++ l.service.metadata.name.getD ""

end Lookup

/-- Whether all lookups were answered. -/
def Answered (looked : List Lookup) : Prop := ∀ l ∈ looked, ∃ e, l.reply = .ok e

theorem Answered.nil : Answered [] := nofun

theorem Answered.cons {s : Cluster.Service} {e : Option Cluster.Endpoints} {looked : List Lookup}
    (h : Answered looked) : Answered (⟨s, .ok e⟩ :: looked) :=
  List.forall_mem_cons.mpr ⟨⟨e, rfl⟩, h⟩

/-- These lookups were made one after another, from one state of the world to another. -/
inductive Made (x : Context (StateM σ)) : σ → List Lookup → σ → Prop where
  | nil (w : σ) : Made x w [] w
  | cons {w w' w'' : σ} {l : Lookup} {looked : List Lookup}
      (first : (lookUp x l.service).run w = (l.reply, w')) (rest : Made x w' looked w'') :
      Made x w (l :: looked) w''

/-- How it ends to look behind some services, with some findings at hand: which lookups there were, the
outcome, and the errors that it means for the store. -/
inductive Ending (key : Redaction.Key) (found : List Finding) :
    List Cluster.Service → List Lookup → Outcome → List String → Prop where
  /-- Each service was looked up, and each lookup was answered. -/
  | finished {looked : List Lookup} (answered : Answered looked) :
      Ending key found (looked.map (·.service)) looked
        (.ok (found ++ looked.filterMap (Lookup.finding? key))) []
  /-- The first lookup that was not answered was the last. -/
  | failed {before : List Lookup} {s : Cluster.Service} {cause : AnalyzerError}
      {rest : List Cluster.Service} (answered : Answered before) :
      Ending key found (before.map (·.service) ++ s :: rest) (before ++ [⟨s, .error cause⟩])
        (.error (.interrupted (found ++ before.filterMap (Lookup.finding? key)) cause))
        ["[Service] " ++ cause.message]

namespace Ending

variable {key : Redaction.Key} {found : List Finding} {list : List Cluster.Service}
  {looked : List Lookup} {outcome : Outcome} {errors : List String}

theorem nil : Ending key found [] [] (.ok found) [] := by
  have h : Ending key found [] [] (.ok (found ++ [])) [] := .finished .nil
  rwa [List.append_nil] at h

/-- A lookup that is not answered is the last, even if it is the first. -/
theorem at_once (s : Cluster.Service) (cause : AnalyzerError) (rest : List Cluster.Service) :
    Ending key found (s :: rest) [⟨s, .error cause⟩] (.error (.interrupted found cause))
      ["[Service] " ++ cause.message] := by
  have h : Ending key found (s :: rest) [⟨s, .error cause⟩]
      (.error (.interrupted (found ++ []) cause)) _ := .failed .nil
  rwa [List.append_nil] at h

/-- One more lookup that was answered. -/
theorem cons {s : Cluster.Service} {e : Option Cluster.Endpoints}
    (h : Ending key (found ++ (Lookup.finding? key ⟨s, .ok e⟩).toList) list looked outcome errors) :
    Ending key found (s :: list) (⟨s, .ok e⟩ :: looked) outcome errors := by
  have hfound (l : List Lookup) :
      found ++ (Lookup.finding? key ⟨s, .ok e⟩).toList ++ l.filterMap (Lookup.finding? key) =
        found ++ (⟨s, .ok e⟩ :: l).filterMap (Lookup.finding? key) := by
    rw [List.append_assoc, List.filterMap_cons]
    cases Lookup.finding? key ⟨s, .ok e⟩ <;> rfl
  cases h with
  | finished h => exact hfound _ ▸ .finished h.cons
  | failed h => exact hfound _ ▸ .failed h.cons

/-- What the store gains by an outcome can be read off the lookups. -/
theorem record (h : Ending key [] list looked outcome errors) (store : Store) (elapsed : Option Nat) :
    store.record "Service" outcome elapsed =
      { findings := store.findings ++ looked.filterMap (Lookup.finding? key)
        errors := store.errors ++ errors
        timings := store.timings ++ elapsed.toList.map fun n => ⟨"Service", n⟩ } := by
  cases h with
  | finished => rfl
  | @failed before s cause _ _ =>
    have hlast : List.filterMap (Lookup.finding? key) (before ++ [⟨s, .error cause⟩]) =
        before.filterMap (Lookup.finding? key) := by simp [Lookup.finding?]
    rw [hlast]
    rfl

end Ending

/-! ## 3. One service, and all of them -/

section

variable {m : Type → Type} [Monad m] (x : Context m) (found : List Finding)

theorem services_skip {s : Cluster.Service} (h : selects s = false) (rest : List Cluster.Service) :
    services x found (s :: rest) = services x found rest := by
  rw [services, if_pos (by simpa [selects] using h)]

theorem services_look [LawfulMonad m] {s : Cluster.Service} (h : selects s = true)
    (rest : List Cluster.Service) :
    services x found (s :: rest) = lookUp x s >>= fun reply =>
      match reply with
      | .error cause => pure (.error (.interrupted found cause))
      | .ok e => services x (found ++ (Lookup.finding? x.key ⟨s, .ok e⟩).toList) rest := by
  rw [services, if_neg (by simpa [selects] using h), readyAddresses, bind_assoc]
  refine bind_congr fun reply => ?_
  rw [pure_bind]
  rcases reply with cause | _ | e
  · rfl
  · rfl
  · have hsum : e.ready.foldr (· + ·) 0 = e.ready.sum := rfl
    dsimp only [Except.map, Option.map_some, Option.getD_some, Lookup.finding?]
    rw [hsum]
    cases e.ready.sum with
    | zero => rfl
    | succ n => exact (congrArg (services x · rest) (List.append_nil found)).symm

end

variable (x : Context (StateM σ))

theorem Lookup.sends (s : Cluster.Service) (reply : Except AnalyzerError (Option Cluster.Endpoints)) :
    Sends (lookUp x.watched s) (lookUp x s) (Lookup.requests x ⟨s, reply⟩) :=
  .find? x .endpoints _ _

/-- Looking behind services comes to one of the two ends, with a list of lookups in between, and sends
nothing but what these lookups send. -/
theorem services_end (list : List Cluster.Service) : ∀ (found : List Finding) (w : σ),
    ∃ looked outcome errors w',
      Made x w looked w' ∧ Ending x.key found (list.filter selects) looked outcome errors ∧
      (services x found list).run w = (outcome, w') ∧
      ∀ seen, (services x.watched found list).run (w, seen) =
        (outcome, w', seen ++ looked.flatMap (Lookup.requests x)) := by
  induction list with
  | nil =>
    intro found w
    refine ⟨[], .ok found, [], w, .nil w, .nil, rfl, fun seen => ?_⟩
    rw [List.flatMap_nil, List.append_nil]
    rfl
  | cons s rest ih =>
    intro found w
    cases h : selects s with
    | false =>
      rw [List.filter_cons_of_neg (by simp [h]), services_skip x found h,
        services_skip x.watched found h]
      exact ih found w
    | true =>
      rw [List.filter_cons_of_pos h, services_look x found h, services_look x.watched found h]
      obtain ⟨⟨reply, w₁⟩, hlook⟩ : ∃ p, (lookUp x s).run w = p := ⟨_, rfl⟩
      have hseen (seen : List String) : (lookUp x.watched s).run (w, seen) =
          (reply, w₁, seen ++ Lookup.requests x ⟨s, reply⟩) := by
        rw [Lookup.sends x s reply w seen, hlook]
      cases reply with
      | error cause =>
        refine ⟨_, _, _, w₁, .cons hlook (.nil w₁), .at_once s cause _, run_bind_of_run hlook,
          fun seen => ?_⟩
        rw [run_bind_of_run (hseen seen), List.flatMap_singleton]
        rfl
      | ok e =>
        obtain ⟨looked, outcome, errors, w', hmade, hend, hrun, hall⟩ := ih _ w₁
        refine ⟨⟨s, .ok e⟩ :: looked, outcome, errors, w', .cons hlook hmade, hend.cons,
          (run_bind_of_run hlook).trans hrun, fun seen => ?_⟩
        rw [run_bind_of_run (hseen seen), List.flatMap_cons, ← List.append_assoc]
        exact hall _

end Analyzer
end ClusterTriage
