import ClusterTriage.Explanation.Explain
import ClusterTriage.Proofs.Text.Substitution

/-!
# Exhausted quotas

That a service refused because a quota is exhausted is known by some words in the sentence of the
cause, the `quotaMark`. Such a sentence is fixed wording around something that was inserted: the number
and the message of a refusal, the text of a fault, the name of a provider. The words are looked for in
the whole of it, so it has to be made sure that they are not put together from the wording on one side
and what is inserted on the other.

> **The wording has no part in the mark** (`isQuotaExhausted_iff`), but for the `status code: ` of a
> refusal, which the digits of its status complete if they begin with 429.

Nothing of this depends on what can be inserted: the number may be any number, and the texts are those
of others.
-/

namespace ClusterTriage
namespace CompletionError

variable {wording text : String} {status : Nat} {cs : List Char}

/-! ## 1. Marked texts -/

/-- The words by which an exhausted quota is known stand in a text. -/
def Marked (text : String) : Prop := quotaMark.toList <:+: text.toList

instance (text : String) : Decidable (Marked text) := inferInstanceAs (Decidable (_ <:+: _))

/-- Wording in front of a text. -/
theorem marked_append_right (h : ¬ Text.RunsInto wording.toList quotaMark.toList) :
    Marked (wording ++ text) ↔ Marked text := by
  unfold Marked
  rw [String.toList_append, Text.occurs_append_iff_right h]

/-- Wording after a text. -/
theorem marked_append_left (h : ¬ Text.RunsInto wording.toList.reverse quotaMark.toList.reverse) :
    Marked (text ++ wording) ↔ Marked text := by
  unfold Marked
  rw [String.toList_append, Text.occurs_append_iff_left h]

/-! ## 2. The sentence of a refusal -/

theorem not_runsInto_toDigits : ¬ Text.RunsInto (Nat.toDigits 10 status) quotaMark.toList := by
  intro hruns
  have hdigit : 's' ∈ Nat.toDigits 10 status := Text.RunsInto.head_mem hruns
  exact absurd (Nat.isDigit_of_mem_toDigits (by decide) (by decide) hdigit) (by decide)

/-- The mark is read from the words before a number on, or after them. -/
theorem occurs_status_iff : quotaMark.toList <:+: "status code: ".toList ++ cs ↔
    "429".toList <+: cs ∨ quotaMark.toList <:+: cs := by
  have hmark : quotaMark.toList = "status code: ".toList ++ "429".toList := by decide
  have hlater : ¬ Text.RunsInto "tatus code: ".toList quotaMark.toList := by decide
  calc quotaMark.toList <:+: "status code: ".toList ++ cs
      ↔ quotaMark.toList <+: "status code: ".toList ++ cs ∨
          quotaMark.toList <:+: "tatus code: ".toList ++ cs := List.infix_cons_iff
    _ ↔ "429".toList <+: cs ∨ quotaMark.toList <:+: cs := by
      rw [Text.occurs_append_iff_right hlater]
      exact or_congr (hmark ▸ List.prefix_append_right_inj _) Iff.rfl

/-- **A refusal is marked by its status or by its message.** -/
theorem marked_refused : Marked (refused status text).message ↔
    "429".toList <+: Nat.toDigits 10 status ∨ Marked text := by
  have hsentence : (refused status text).message.toList = "error, ".toList ++
      ("status code: ".toList ++
        (Nat.toDigits 10 status ++ (", message: ".toList ++ text.toList))) := by
    have hwording : "error, status code: ".toList = "error, ".toList ++ "status code: ".toList := by
      decide
    show ("error, status code: " ++ Nat.repr status ++ ", message: " ++ text).toList = _
    rw [String.toList_append, String.toList_append, String.toList_append, Nat.toList_repr, hwording,
      List.append_assoc, List.append_assoc, List.append_assoc]
  have hbefore : ¬ Text.RunsInto "error, ".toList quotaMark.toList := by decide
  have hafter : ¬ Text.RunsInto ", message: ".toList quotaMark.toList := by decide
  have hnumber : "429".toList <+: Nat.toDigits 10 status ++ (", message: ".toList ++ text.toList) ↔
      "429".toList <+: Nat.toDigits 10 status := by
    rw [show ", message: ".toList = ',' :: " message: ".toList by decide, List.cons_append]
    exact Text.starts_append_cons_iff (by decide)
  unfold Marked
  rw [hsentence, Text.occurs_append_iff_right hbefore, occurs_status_iff, hnumber,
    Text.occurs_append_iff_right not_runsInto_toDigits, Text.occurs_append_iff_right hafter]

/-- The statuses of HTTP have three digits. -/
theorem starts_toDigits_iff (hlow : 100 ≤ status) (hhigh : status ≤ 999) :
    "429".toList <+: Nat.toDigits 10 status ↔ status = 429 := by
  constructor
  · intro hstarts
    have hle : (Nat.toDigits 10 status).length ≤ 3 :=
      (Nat.length_toDigits_le_iff (by decide) (by decide)).mpr (by omega)
    have hsame : "429".toList = Nat.toDigits 10 status :=
      hstarts.eq_of_length (Nat.le_antisymm hstarts.length_le hle)
    have hvalue := Nat.ofDigitChars_ten_toDigits (n := status)
    rw [← hsame] at hvalue
    exact hvalue.symm
  · rintro rfl
    decide

/-! ## 3. Causes -/

/-- What makes the sentence of a cause a marked one: the status or the message of a refusal, or what
else is inserted. -/
def SpeaksOfQuota : CompletionError → Prop
  | .http reason => Marked reason
  | .refused status text => "429".toList <+: Nat.toDigits 10 status ∨ Marked text
  | .undecodable reason => Marked reason
  | .noChoices => False
  | .noProviders => False
  | .notConfigured provider => Marked provider
  | .unsupported provider => Marked provider

/-- **The wording has no part in the mark**, but for the words before the number of a refusal. -/
theorem isQuotaExhausted_iff (e : CompletionError) :
    e.isQuotaExhausted = true ↔ e.SpeaksOfQuota := by
  have hmarked : e.isQuotaExhausted = true ↔ Marked e.message := Text.occursIn_iff
  rw [hmarked]
  cases e with
  | http reason => exact marked_append_right (by decide)
  | refused status text => exact marked_refused
  | undecodable reason => exact marked_append_right (by decide)
  | noChoices => exact iff_of_false (by decide) id
  | noProviders => exact iff_of_false (by decide) id
  | notConfigured provider =>
    exact (marked_append_left (by decide)).trans (marked_append_right (by decide))
  | unsupported provider =>
    exact (marked_append_left (by decide)).trans (marked_append_right (by decide))

/-- **Exhausted quotas are told apart exactly.** Whatever the provider and the cause, the error is that
of an exhausted quota if and only if the cause speaks of one: a refusal whose status begins with the
digits 429 or whose message is marked, or another cause with a marked text inserted, and never one that
has nothing inserted. Of the statuses of three digits that is 429 alone. Either way the error bears the
name of the provider and the cause as it was. -/
theorem exhausted_quotas_are_told_apart (provider : String) (e : CompletionError) :
    (ExplainError.classify provider e = .quotaExhausted provider e ↔ e.SpeaksOfQuota) ∧
    (ExplainError.classify provider e = .failed provider e ↔ ¬ e.SpeaksOfQuota) ∧
    ∀ status text, 100 ≤ status → status ≤ 999 →
      ((refused status text).SpeaksOfQuota ↔ status = 429 ∨ Marked text) := by
  refine ⟨?_, ?_, fun status text hlow hhigh => or_congr (starts_toDigits_iff hlow hhigh) Iff.rfl⟩
  · rw [← isQuotaExhausted_iff, ExplainError.classify]
    by_cases h : e.isQuotaExhausted = true
    · exact iff_of_true (if_pos h) h
    · exact iff_of_false (by rw [if_neg h]; nofun) h
  · rw [← isQuotaExhausted_iff, ExplainError.classify]
    by_cases h : e.isQuotaExhausted = true
    · exact iff_of_false (by rw [if_pos h]; nofun) (not_not_intro h)
    · exact iff_of_true (if_neg h) h

end CompletionError
end ClusterTriage
