import ClusterTriage.Finding.Coding
import ClusterTriage.Run.Store

/-!
# Reports

The outcome of a run, with its verdict: a run is fine if no finding has a failure.
-/

namespace ClusterTriage

/-- The verdict of a report. -/
inductive Verdict where
  | ok
  | problemDetected
deriving DecidableEq, Repr

def Verdict.name : Verdict → String
  | .ok => "OK"
  | .problemDetected => "ProblemDetected"

/-- The outcome of a run. -/
structure Report where
  /-- Who wrote the explanations; empty if nobody did. -/
  provider : String
  errors : List String
  verdict : Verdict
  problems : Nat
  findings : List Finding
  timings : List Timing
deriving DecidableEq, Repr

namespace Report

/-- The number of failures over all findings. -/
def countProblems (findings : List Finding) : Nat :=
  (findings.map (·.failures.length)).foldr (· + ·) 0

def ofStore (provider : String) (s : Store) : Report :=
  let problems := countProblems s.findings
  { provider, errors := s.errors
    verdict := if problems = 0 then .ok else .problemDetected
    problems, findings := s.findings, timings := s.timings }

def toDatum (r : Report) : Datum :=
  .object <|
    [("provider", .string r.provider), ("errors", .array (r.errors.map .string)),
      ("status", .string r.verdict.name), ("problems", .int r.problems),
      ("results", .array (r.findings.map Finding.toDatum))] ++
    (if r.timings.isEmpty then [] else [("stats", .array (r.timings.map Timing.toDatum))])

def verdict? (d : Datum) : Option Verdict := do
  match ← d.caseName? Datum.isNull with
  | "OK" => some .ok
  | "ProblemDetected" => some .problemDetected
  | _ => none

def ofDatum? (d : Datum) : Option Report := do
  let r ← Record.ofDatum? ["provider", "errors", "status", "problems", "results", "stats"] d
  return {
    provider := ← r.required "provider" Datum.string?
    errors := ← r.required "errors" (Datum.arrayOf? Datum.string?)
    verdict := ← r.required "status" verdict?
    problems := ← r.required "problems" (Datum.word? 64)
    findings := ← r.required "results" (Datum.arrayOf? Finding.ofDatum?)
    timings := ← r.defaulted "stats" [] (Datum.arrayOf? Timing.ofDatum?) }

end Report
end ClusterTriage
