import ClusterTriage.Run.Store

/-!
# Running analyzers side by side

At most a fixed number of analyzers run at once. The state of such a run changes in three ways: the
next analyzer in line is launched with a permit, the outcome of a launched one is recorded, and
after that its permit is released. Nothing else is said of the order, so every way in which
analyzers can overtake one another is a sequence of these steps.
-/

namespace ClusterTriage

/-- How many analyzers run at once where nothing sensible is configured. -/
def defaultConcurrency : Nat := 10

def maxConcurrency : Nat := 100

/-- The number of permits for a configured limit. -/
def clampConcurrency (limit : Int) : Nat :=
  if limit ≤ 0 then defaultConcurrency else min limit.toNat maxConcurrency

/-- An analyzer under the name it runs under, with what it will bring and how long it takes. -/
structure Job where
  name : String
  outcome : Outcome
  /-- How long the analyzer runs, in nanoseconds. -/
  duration : Nat := 0
deriving Repr

namespace Executor

/-- A run in progress. -/
structure State where
  limit : Nat
  /-- Whether timings are recorded. -/
  timed : Bool
  queued : List Job
  /-- Analyzers that hold a permit and have no outcome recorded yet. -/
  running : List Job := []
  /-- Analyzers whose outcome is recorded and whose permit is still held. -/
  recorded : List Job := []
  store : Store

namespace State

def held (s : State) : Nat := s.running.length + s.recorded.length

/-- Launches the next analyzer in line, if a permit is free. -/
def launch? (s : State) : Option State :=
  match s.queued with
  | [] => none
  | job :: rest =>
    if s.held < s.limit then some { s with queued := rest, running := s.running ++ [job] } else none

def record? (s : State) (i : Nat) : Option State :=
  s.running[i]?.map fun job =>
    { s with
      running := s.running.eraseIdx i
      recorded := s.recorded ++ [job]
      store := s.store.record job.name job.outcome (if s.timed then some job.duration else none) }

def release? (s : State) (i : Nat) : Option State :=
  if i < s.recorded.length then some { s with recorded := s.recorded.eraseIdx i } else none

def finished (s : State) : Bool := s.queued.isEmpty && s.running.isEmpty && s.recorded.isEmpty

end State

/-- One step of a run. -/
inductive Step : State → State → Prop where
  | launch {s t : State} (h : s.launch? = some t) : Step s t
  | record {s t : State} (i : Nat) (h : s.record? i = some t) : Step s t
  | release {s t : State} (i : Nat) (h : s.release? i = some t) : Step s t

inductive Steps : State → State → Prop where
  | refl (s : State) : Steps s s
  | head {s t u : State} (first : Step s t) (rest : Steps t u) : Steps s u

def State.initial (limit : Int) (timed : Bool) (jobs : List Job) (store : Store) : State :=
  { limit := clampConcurrency limit, timed, queued := jobs, store }

end Executor
end ClusterTriage
