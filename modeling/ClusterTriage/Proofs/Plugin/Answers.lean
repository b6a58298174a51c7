import ClusterTriage.Plugin.Run
import ClusterTriage.Proofs.Run.Ledger
import Mathlib.Data.List.Forall2

/-!
# What a custom analyzer leaves

An entry of the configuration that cannot be used leaves a report of what is wrong with it. Any other has a
reply: a finding, a refusal, or nothing because it broke off. What the store has to show for a reply is one
finding or one error (`Answer.one_of`).

A finding that comes without a kind is given the name of its analyzer, and such a name is never empty:
an entry without a name is one of those that cannot be used. So every finding has a kind
(`Answer.kind_ne_empty`).
-/

namespace ClusterTriage
namespace Plugin

/-! ## 1. Entries -/

/-- An entry without a name is not a usable one. -/
theorem name_ne_empty {p : Plugin} (h : p.validate.isOk = true) : p.name ≠ "" := by
  intro hname
  have hinvalid : isSubdomain "".toList = false := by decide
  rw [validate, hname, hinvalid] at h
  cases h

/-- For each entry that cannot be used, in their order, there is a report of what is wrong with it. -/
theorem forall₂_invalid (plugins : List Plugin) :
    List.Forall₂ (fun p report => ∃ e, p.validate = .error e ∧ report = e.message)
      (plugins.filter fun p => !p.validate.isOk) (invalid plugins) := by
  unfold invalid
  induction plugins with
  | nil => exact .nil
  | cons p rest ih =>
    cases h : p.validate with
    | ok =>
      rw [List.filter_cons_of_neg (by rw [h]; exact Bool.false_ne_true), List.filterMap_cons_none (by rw [h])]
      exact ih
    | error e =>
      rw [List.filter_cons_of_pos (by rw [h]; rfl),
        List.filterMap_cons_some (b := e.message) (by rw [h])]
      exact .cons ⟨e, h, rfl⟩ ih

/-! ## 2. Answers -/

/-- What comes of connecting to a custom analyzer and asking it. -/
inductive Reply where
  | finding (f : Finding)
  | failed (e : PluginError)
  /-- It broke off, perhaps with a text. -/
  | broke (text : Option String)

def Reply.result : Reply → Except AnalyzerError Finding
  | .finding f => .ok f
  | .failed e => .error (.plugin e)
  | .broke text => .error (.ofPanic text)

/-- A usable entry, its reply and how long that took. -/
structure Answer where
  plugin : Plugin
  reply : Reply
  duration : Nat := 0

namespace Answer

/-- The answer as a job of the run. -/
def job (a : Answer) : Job where
  name := a.plugin.name
  outcome := a.plugin.outcome a.reply.result
  duration := a.duration

/-- The finding that an answer leaves: the one of the reply, and of the kind that bears the name of
the entry if it has no kind. -/
def finding? (a : Answer) : Option Finding :=
  match a.reply with
  | .finding f => some { f with kind := if f.kind = "" then a.plugin.name else f.kind }
  | _ => none

/-- The error that an answer leaves under the name of the entry. -/
def error? (a : Answer) : Option String :=
  match a.reply with
  | .finding _ => none
  | .failed e => some (s!"[{a.plugin.name}] " ++ e.message)
  | .broke text =>
    some (s!"[{a.plugin.name}] " ++ ("analyzer panicked: " ++ text.getD "unknown panic payload"))

/-- Answers of one entry each are the answers of these entries. -/
theorem plugins_of_forall₂ {R : Plugin → Answer → Prop} {plugins : List Plugin} {answers : List Answer}
    (h : List.Forall₂ (fun p a => a.plugin = p ∧ R p a) plugins answers) :
    answers.map plugin = plugins := by
  induction h with
  | nil => rfl
  | cons ha _ ih => rw [List.map_cons, ih, ha.1]

theorem findings_job (a : Answer) : a.job.outcome.findings = a.finding?.toList := by
  obtain ⟨p, f | e | text, duration⟩ := a
  · show [p.adopt f] = [_]
    unfold adopt
    split <;> rfl
  · rfl
  · rfl

theorem errors_job (a : Answer) : a.job.outcome.errors a.job.name = a.error?.toList := by
  obtain ⟨p, f | e | text, duration⟩ := a
  · rfl
  · rfl
  · rfl

theorem flatMap_findings_job (answers : List Answer) :
    (answers.map job).flatMap (fun j => j.outcome.findings) = answers.filterMap finding? := by
  rw [List.flatMap_map, List.filterMap_eq_flatMap_toList]
  exact List.flatMap_congr fun a _ => a.findings_job

theorem flatMap_errors_job (answers : List Answer) :
    (answers.map job).flatMap (fun j => j.outcome.errors j.name) = answers.filterMap error? := by
  rw [List.flatMap_map, List.filterMap_eq_flatMap_toList]
  exact List.flatMap_congr fun a _ => a.errors_job

/-- **One finding or one error** under the name of the entry, never both and never neither. -/
theorem one_of (a : Answer) :
    (∃ f, a.reply = .finding f ∧
      a.finding? = some { f with kind := if f.kind = "" then a.plugin.name else f.kind } ∧
      a.error? = none) ∨
    (∀ f, a.reply ≠ .finding f) ∧ a.finding? = none ∧
      ∃ e, a.error? = some (s!"[{a.plugin.name}] " ++ e) := by
  obtain ⟨p, f | e | text, duration⟩ := a
  · exact .inl ⟨f, rfl, rfl, rfl⟩
  · exact .inr ⟨nofun, rfl, _, rfl⟩
  · exact .inr ⟨nofun, rfl, _, rfl⟩

theorem kind_ne_empty {a : Answer} {f : Finding} (hp : a.plugin.validate.isOk = true)
    (h : a.finding? = some f) : f.kind ≠ "" := by
  obtain ⟨p, g | e | text, duration⟩ := a
  · obtain rfl := Option.some.inj h
    show (if g.kind = "" then p.name else g.kind) ≠ ""
    split
    case isTrue => exact name_ne_empty hp
    case isFalse hkind => exact hkind
  · cases h
  · cases h

end Answer
end Plugin
end ClusterTriage
