import ClusterTriage.Datum.Json.Printer
import ClusterTriage.Finding.Duration
import ClusterTriage.Report.Basic
import ClusterTriage.Text.Styled

/-!
# Written reports

A report is written for people, in lines that may be coloured, or as JSON.
-/

namespace ClusterTriage

/-- The two forms of a written report. -/
inductive ReportFormat where
  | text
  | json
deriving DecidableEq, Repr

namespace Report

open Text

variable (colour : Bool)

def providerLines (provider : String) : List String :=
  if provider = "" then [] else ["AI Provider: " ++ styled colour [.brightCyan] provider, ""]

def warningLines (errors : List String) : List String :=
  if errors.isEmpty then []
  else
    styled colour [.bold, .yellow] "Warnings:" ::
      errors.map (fun e => "- " ++ styled colour [.yellow] e) ++ [""]

/-- The line that says that nothing was found. -/
def allClear : String := styled colour [.green] "No problems detected"

def failureLines (f : Failure) : List String :=
  ("- " ++ styled colour [.red] "Error:" ++ " " ++ styled colour [.red] f.text) ::
    match f.documentation with
    | some doc =>
      ["  " ++ styled colour [.red] "Kubernetes Doc:" ++ " " ++ styled colour [.red] doc]
    | none => []

/-- One finding under its number. -/
def findingLines (index : Nat) (f : Finding) : List String :=
  let parent := match f.parent with
    | some p => "(" ++ p ++ ")"
    | none => ""
  (styled colour [.bold] (toString index ++ ": " ++ f.kind) ++ " " ++
      styled colour [.brightBlue] f.name ++ styled colour [.cyan] parent) ::
    f.failures.flatMap (failureLines colour) ++
    (match f.details with
      | some details => [styled colour [.green] details]
      | none => []) ++ [""]

def timingLines (timings : List Timing) : List String :=
  if timings.isEmpty then []
  else
    styled colour [.bold] "Statistics:" ::
      timings.map fun t =>
        "- Analyzer " ++ t.analyzer ++ " took " ++ Duration.describe t.nanoseconds

def lines (r : Report) : List String :=
  providerLines colour r.provider ++ warningLines colour r.errors ++
    (if r.findings.isEmpty then [allClear colour] else []) ++
    (r.findings.zipIdx.flatMap fun (f, index) => findingLines colour index f) ++
    timingLines colour r.timings

def toText (r : Report) : String := String.join ((r.lines colour).map (· ++ "\n"))

def toJson (r : Report) : String := Json.pretty r.toDatum

def render (format : ReportFormat) (r : Report) : String :=
  match format with
  | .text => r.toText colour
  | .json => r.toJson

end Report
end ClusterTriage
