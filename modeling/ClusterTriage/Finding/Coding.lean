import ClusterTriage.Datum.Record
import ClusterTriage.Finding.Basic

/-!
# Findings as data

The shape in which findings are written to reports and read from plugins. Empty lists and absent
texts are left out, and may be left out.
-/

namespace ClusterTriage

/-- A member that is written only if there is something to write. -/
def Datum.optionalMember (name : String) : Option String → List (String × Datum)
  | some s => [(name, .string s)]
  | none => []

namespace Redaction

def Rule.toDatum (r : Rule) : Datum :=
  .object [("unmasked", .string r.unmasked), ("masked", .string r.masked)]

def Rule.ofDatum? (d : Datum) : Option Rule := do
  let r ← Record.ofDatum? ["unmasked", "masked"] d
  return ⟨← r.required "unmasked" Datum.string?, ← r.required "masked" Datum.string?⟩

end Redaction

def Failure.toDatum (f : Failure) : Datum :=
  .object <|
    [("text", .string f.text)] ++
    (if f.sensitive.isEmpty then []
      else [("sensitive", .array (f.sensitive.map Redaction.Rule.toDatum))]) ++
    Datum.optionalMember "kubernetesDoc" f.documentation

def Failure.ofDatum? (d : Datum) : Option Failure := do
  let r ← Record.ofDatum? ["text", "sensitive", "kubernetesDoc"] d
  return {
    text := ← r.required "text" Datum.string?
    sensitive := ← r.defaulted "sensitive" [] (Datum.arrayOf? Redaction.Rule.ofDatum?)
    documentation := ← r.optionalDefaulted "kubernetesDoc" Datum.string? }

def Finding.toDatum (f : Finding) : Datum :=
  .object <|
    [("kind", .string f.kind), ("name", .string f.name),
      ("error", .array (f.failures.map Failure.toDatum))] ++
    Datum.optionalMember "details" f.details ++
    Datum.optionalMember "parentObject" f.parent

def Finding.ofDatum? (d : Datum) : Option Finding := do
  let r ← Record.ofDatum? ["kind", "name", "error", "details", "parentObject"] d
  return {
    kind := ← r.defaulted "kind" "" Datum.string?
    name := ← r.defaulted "name" "" Datum.string?
    failures := ← r.defaulted "error" [] (Datum.arrayOf? Failure.ofDatum?)
    details := ← r.optionalDefaulted "details" Datum.string?
    parent := ← r.optionalDefaulted "parentObject" Datum.string? }

/-- A timing as data: whole milliseconds, as a word of 64 bits. -/
def Timing.toDatum (t : Timing) : Datum :=
  .object [("analyzer", .string t.analyzer),
    ("duration", .int (t.nanoseconds / 1000000 % 0x10000000000000000 : Nat))]

def Timing.ofDatum? (d : Datum) : Option Timing := do
  let r ← Record.ofDatum? ["analyzer", "duration"] d
  return {
    analyzer := ← r.required "analyzer" Datum.string?
    nanoseconds := (← r.required "duration" (Datum.word? 64)) * 1000000 }

end ClusterTriage
