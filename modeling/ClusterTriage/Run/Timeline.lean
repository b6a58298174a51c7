import ClusterTriage.Run.Executor

/-!
# Runs by the clock

If it is known how long every analyzer takes, the order of events is known too: an analyzer is
launched as soon as a permit is free, and the one whose time is up first is recorded first. A
`Timeline` goes through the steps of `Executor` in that order and keeps account of what started
when.
-/

namespace ClusterTriage
namespace Executor

/-- A run in progress, by the clock. -/
structure Timeline where
  state : State
  /-- The time, in nanoseconds since the start. -/
  now : Nat := 0
  /-- When each running analyzer ends, in the order of the running analyzers. -/
  ends : List Nat := []
  started : List String := []
  /-- The greatest number of analyzers that were running at once. -/
  peak : Nat := 0

namespace Timeline

/-- The position of the first least number. -/
def earliest : List Nat → Nat
  | [] => 0
  | [_] => 0
  | a :: b :: rest =>
    let i := earliest (b :: rest)
    if a ≤ (b :: rest).getD i 0 then 0 else i + 1

def finish? (t : Timeline) (i : Nat) : Option Timeline := do
  let s ← t.state.record? i
  let s ← s.release? (s.recorded.length - 1)
  some { t with state := s, now := max t.now (t.ends.getD i t.now), ends := t.ends.eraseIdx i }

/-- Launches the next analyzer. One that takes no time ends before anything else happens. -/
def launch? (t : Timeline) : Option Timeline := do
  let job ← t.state.queued.head?
  let s ← t.state.launch?
  let t : Timeline :=
    { t with
      state := s
      ends := t.ends ++ [t.now + job.duration]
      started := t.started ++ [job.name]
      peak := max t.peak s.running.length }
  if job.duration = 0 then t.finish? (s.running.length - 1) else some t

/-- The next event: a launch where one is possible, else the end of the analyzer that ends first. -/
def advance? (t : Timeline) : Option Timeline :=
  match t.launch? with
  | some t => some t
  | none => t.finish? (earliest t.ends)

def advance : (events : Nat) → Timeline → Timeline
  | 0, t => t
  | events + 1, t =>
    match t.advance? with
    | some t => t.advance events
    | none => t

end Timeline

/-- The whole run of some analyzers. Each of them is launched once and ends once. -/
def timeline (limit : Int) (timed : Bool) (jobs : List Job) (store : Store) : Timeline :=
  Timeline.advance (2 * jobs.length) { state := State.initial limit timed jobs store }

def run (limit : Int) (timed : Bool) (jobs : List Job) (store : Store) : Store :=
  (timeline limit timed jobs store).state.store

end Executor
end ClusterTriage
