import ClusterTriage.Proofs.Analyzer.Naming
import ClusterTriage.Proofs.Redaction.Key
import ClusterTriage.Proofs.Text.Substitution

/-!
# Qualified names under their masks

Four kinds of failures give an object by its qualified name, and the rules beside them are two: first the
one of the namespace, then the one of the name. The first rule does not know of the second. Where the
namespace stands in the name as well, it is masked there too, and then the name is no longer in the text.

> **The namespace goes, and the name goes as a whole unless the namespace is a part of it**
> (`qualified_names_are_masked`); if it is, the rest of the name stays readable.
-/

namespace ClusterTriage
namespace Inspection

open Cluster

/-! ## 1. Two rules on one text -/

/-- What a name looks like after the rule of its namespace and its own. -/
def shownName (key : Redaction.Key) (ns n : String) : String :=
  if Text.containsString n ns then Text.replaceString ns (key.mask ns) n else key.mask n

variable {key : Redaction.Key} {ns n before after : String}

theorem shownName_of_whole (hns : ns ≠ "") (h : n = ns ∨ Text.containsString n ns = false) :
    shownName key ns n = key.mask n := by
  unfold shownName
  rcases h with rfl | h
  · split
    · rw [Text.replaceString, Text.replaceAll_self (Text.toList_ne_nil hns), String.ofList_toList]
    · rfl
  · rw [if_neg (by simp [h])]

theorem replaced_in_name (key : Redaction.Key) (hns : ns ≠ "") (n : String) :
    Text.Replaced ns.toList (key.mask ns).toList n.toList
      (Text.replaceString ns (key.mask ns) n).toList := by
  rw [Text.toList_replaceString]
  exact Text.replaced_replaceAll (Text.toList_ne_nil hns) n.toList

/-- The rule of the name finds it if the rule of the namespace has left it as it was. -/
theorem toList_shownName (hns : ns ≠ "") :
    (shownName key ns n).toList =
      if (Text.replaceString ns (key.mask ns) n).toList = n.toList then (key.mask n).toList
      else (Text.replaceString ns (key.mask ns) n).toList := by
  have hsame := (replaced_in_name key hns n).eq_self_iff (Text.toList_ne_nil hns)
    (key.length_mask ns) fun heq => key.mask_ne_self hns (String.toList_injective heq)
  rw [← Text.occursIn_iff, Bool.not_eq_true] at hsame
  unfold shownName Text.containsString
  by_cases hoccurs : Text.occursIn ns.toList n.toList = true
  · rw [if_pos hoccurs, if_neg (mt hsame.mp (by simp [hoccurs]))]
  · rw [if_neg hoccurs, if_pos (hsame.mpr (by simpa using hoccurs))]

/-- A word before a slash is replaced there and after it, if it occurs nowhere else. -/
theorem replaceAll_before_slash {w m s a b : List Char} (hw : w ≠ []) (hslash : w.head? ≠ some '/')
    (h : Text.Within w a (w ++ '/' :: s) b) :
    Text.replaceAll w m (a ++ (w ++ '/' :: s) ++ b) =
      a ++ m ++ ['/'] ++ Text.replaceAll w m s ++ b := by
  have hstart : ¬ w <+: '/' :: s := by
    obtain ⟨c, cs, rfl⟩ := List.exists_cons_of_ne_nil hw
    intro hstarts
    exact hslash (congrArg some (List.cons_prefix_cons.mp hstarts).1)
  have hrest : Text.replaceAll w m ('/' :: s ++ b) = Text.replaceAll w m ('/' :: s) ++ b :=
    (h.tail rfl).replaceAll_append hw
  rw [List.append_assoc a, Text.replaceAll_append_of_no_start h.no_start, List.append_assoc w,
    Text.replaceAll_append_of_occurrence hw, hrest, Text.replaceAll_cons_of_no_occurrence hstart]
  simp only [List.append_assoc, List.cons_append, List.nil_append]

/-- **Both rules, one after the other**: where the namespace occurs in the qualified name only, and the
name, once the namespace is masked, only where it stands in it. -/
theorem mask_qualified (hns : ns ≠ "") (hn : n ≠ "") (hslash : ns.toList.head? ≠ some '/')
    (hspace : Text.Within ns.toList before.toList (ns ++ "/" ++ n).toList after.toList)
    (hname : Text.Within n.toList (before ++ key.mask ns ++ "/").toList
      (Text.replaceString ns (key.mask ns) n).toList after.toList) :
    Redaction.mask [key.rule ns, key.rule n] (before ++ (ns ++ "/" ++ n) ++ after) =
      before ++ (key.mask ns ++ "/" ++ shownName key ns n) ++ after := by
  have hqualified : (ns ++ "/" ++ n).toList = ns.toList ++ '/' :: n.toList := by
    simp [String.toList_append]
  rw [hqualified] at hspace
  have hfirst : ((key.rule ns).mask (before ++ (ns ++ "/" ++ n) ++ after)).toList =
      (before ++ key.mask ns ++ "/").toList ++ (Text.replaceString ns (key.mask ns) n).toList ++
        after.toList := by
    rw [Redaction.Rule.mask, Text.toList_replaceString, Text.toList_replaceString,
      String.toList_append, String.toList_append, hqualified]
    exact (replaceAll_before_slash (Text.toList_ne_nil hns) hslash hspace).trans
      (by simp [String.toList_append, Redaction.Key.rule])
  have hlength : (Text.replaceString ns (key.mask ns) n).toList.length = n.toList.length :=
    (replaced_in_name key hns n).length_eq (key.length_mask ns)
  rw [← String.toList_inj]
  show ((key.rule n).mask ((key.rule ns).mask (before ++ (ns ++ "/" ++ n) ++ after))).toList = _
  rw [Redaction.Rule.mask, Text.toList_replaceString, hfirst]
  refine (hname.replaceAll_middle (Text.toList_ne_nil hn) hlength).trans ?_
  simp [String.toList_append, toList_shownName hns, Redaction.Key.rule]

/-! ## 2. Failures that give a qualified name -/

/-- What stands before and after the qualified name, in every failure that gives it. -/
def Subject.namings : Subject → List (String × String)
  | pod p =>
    if p.phase = some "Pending" then
      (p.conditions.filter isUnschedulable).map fun c =>
        ("Pod ", " is unschedulable: " ++ c.message.getD "")
    else []
  | deployment _ d =>
    [("Deployment ", " has " ++ toString (d.replicas.getD 1) ++ " replicas but " ++
      toString (d.ready.getD 0) ++ " are available")]
  | claim c =>
    [("PersistentVolumeClaim ",
      " is Pending (storage class " ++ c.storageClass.getD "<default>" ++ ")")]
  | ingress _ i =>
    match ingressClass? i with
    | none => [("Ingress ", " does not specify an Ingress class")]
    | some _ => []
  | replicaSet _ => []
  | service _ => []
  | node _ => []

variable {x : Subject} {f : Finding}

theorem spell_of_mem_namings {e : String × String} (he : e ∈ x.namings) :
    e.1 ++ x.metadata.qualifiedName ++ e.2 ∈ x.sentences.map spell := by
  cases x with
  | pod p =>
    simp only [Subject.namings] at he
    split at he
    · rename_i hphase
      obtain ⟨c, hc, rfl⟩ := List.mem_map.mp he
      rw [Subject.sentences, ← podTexts_eq, podTexts, if_pos hphase]
      refine List.mem_append_left _ (List.mem_map.mpr ⟨c, hc, ?_⟩)
      simp [unschedulableText, Subject.metadata, String.append_assoc]
    · cases he
  | deployment documentation d =>
    simp only [Subject.namings, List.mem_singleton] at he
    subst he
    rw [Subject.sentences, List.map_singleton, spell_deploymentParts, List.mem_singleton]
    simp only [Subject.metadata, deploymentText, String.append_assoc]
  | claim c =>
    simp only [Subject.namings, List.mem_singleton] at he
    subst he
    rw [Subject.sentences, List.map_singleton, spell_claimParts, List.mem_singleton]
    unfold claimText
    generalize c.storageClass.getD "<default>" = storageClass
    simp only [Subject.metadata, String.append_assoc]
  | ingress known i =>
    cases hclass : ingressClass? i with
    | none =>
      simp only [Subject.namings, hclass, List.mem_singleton] at he
      subst he
      simp only [Subject.sentences, hclass]
      rw [List.map_singleton, spell_classlessParts, List.mem_singleton]
      rfl
    | some name =>
      simp only [Subject.namings, hclass] at he
      cases he
  | replicaSet r => cases he
  | service s => cases he
  | node n => cases he

theorem hidden_of_mem_namings {e : String × String} (he : e ∈ x.namings) :
    x.hidden key = rules key x.metadata := by
  cases x with
  | ingress known i =>
    cases hclass : ingressClass? i with
    | none => simp [Subject.hidden, Subject.metadata, hclass]
    | some name =>
      simp only [Subject.namings, hclass] at he
      cases he
  | pod p => rfl
  | deployment documentation d => rfl
  | claim c => rfl
  | replicaSet r => cases he
  | service s => cases he
  | node n => cases he

theorem texts_of_inspect (h : x.inspect key = some f) :
    f.failures.map Failure.text = x.sentences.map spell := by
  have htexts := congrArg (List.map Prod.fst) (Subject.failures_spelled h)
  rw [List.map_map, List.map_map] at htexts
  exact htexts

theorem sensitive_of_inspect (h : x.inspect key = some f) :
    ∀ g ∈ f.failures, g.sensitive = x.hidden key := by
  intro g hg
  have hmem := List.mem_map_of_mem (f := fun g : Failure => (g.text, g.sensitive)) hg
  rw [Subject.failures_spelled h] at hmem
  obtain ⟨_, -, heq⟩ := List.mem_map.mp hmem
  exact (Prod.mk.inj heq).2.symm

/-- **How a qualified name shows in a masked failure.** The namespace has to occur in the qualified name
only, and once it is masked the name only in the place where it stood. -/
theorem qualified_names_are_masked (h : x.inspect key = some f) (hspace : x.metadata.space = some ns)
    (hname : x.metadata.name = some n) (hns : ns ≠ "") (hn : n ≠ "")
    (hslash : ns.toList.head? ≠ some '/') :
    ∀ e ∈ x.namings,
      (∃ g ∈ f.failures, g.text = e.1 ++ (ns ++ "/" ++ n) ++ e.2) ∧
      ∀ g ∈ f.failures, g.text = e.1 ++ (ns ++ "/" ++ n) ++ e.2 →
        Text.Within ns.toList e.1.toList (ns ++ "/" ++ n).toList e.2.toList →
        Text.Within n.toList (e.1 ++ key.mask ns ++ "/").toList
          (Text.replaceString ns (key.mask ns) n).toList e.2.toList →
        g.masked = e.1 ++ (key.mask ns ++ "/" ++ shownName key ns n) ++ e.2 ∧
        (n = ns ∨ Text.containsString n ns = false →
          g.masked = e.1 ++ (key.mask ns ++ "/" ++ key.mask n) ++ e.2) := by
  intro e he
  have hqualified : x.metadata.qualifiedName = ns ++ "/" ++ n := by
    simp [Metadata.qualifiedName, hspace, hname, hns]
  constructor
  · have hmem := spell_of_mem_namings he
    rw [hqualified, ← texts_of_inspect h] at hmem
    exact List.mem_map.mp hmem
  · intro g hg htext hwithin hwithin'
    have hrules : g.sensitive = [key.rule ns, key.rule n] := by
      rw [sensitive_of_inspect h g hg, hidden_of_mem_namings he, rules, hspace, hname]
      simp [hns, hn]
    have hmasked : g.masked = e.1 ++ (key.mask ns ++ "/" ++ shownName key ns n) ++ e.2 := by
      rw [Failure.masked, hrules, htext]
      exact mask_qualified hns hn hslash hwithin hwithin'
    refine ⟨hmasked, fun hwhole => ?_⟩
    rw [hmasked, shownName_of_whole hns hwhole]

/-- A deployment whose name ends as its namespace begins. -/
theorem qualified_name_of_a_deployment_is_masked :
    let x := Subject.deployment none
      { metadata := { name := some "stop-pay", space := some "payments" }, replicas := some 3
        ready := some 1 }
    ∃ f, x.inspect .zero = some f ∧ ∃ g ∈ f.failures,
      g.text = "Deployment payments/stop-pay has 3 replicas but 1 are available" ∧
        g.masked = "Deployment 8WT1bwST/Eo1bUCVA has 3 replicas but 1 are available" := by
  intro x
  obtain ⟨f, hf⟩ : ∃ f, x.inspect .zero = some f := ⟨_, rfl⟩
  obtain ⟨⟨g, hg, htext⟩, hmasked⟩ :=
    qualified_names_are_masked hf rfl rfl (by decide) (by decide) (by decide) _
      (List.mem_singleton_self _)
  refine ⟨f, hf, g, hg, htext.trans (by decide), ?_⟩
  have hwhole := (hmasked g hg htext (by decide +kernel) (by decide +kernel)).2 (.inr (by decide))
  exact hwhole.trans (by decide +kernel)

/-- Not every name goes as a whole: one that has its namespace in it does not. -/
theorem a_name_with_its_namespace_in_it_shows :
    ¬ ∀ (key : Redaction.Key) (x : Subject) (f : Finding) (ns n : String),
      x.inspect key = some f → x.metadata.space = some ns → x.metadata.name = some n →
      ns ≠ "" → n ≠ "" → ∀ e ∈ x.namings, ∀ g ∈ f.failures,
        g.text = e.1 ++ (ns ++ "/" ++ n) ++ e.2 →
        Text.Within ns.toList e.1.toList (ns ++ "/" ++ n).toList e.2.toList →
        Text.Within n.toList e.1.toList (ns ++ "/" ++ n).toList e.2.toList →
        g.masked = e.1 ++ (key.mask ns ++ "/" ++ key.mask n) ++ e.2 := by
  intro hall
  let d : Deployment :=
    { metadata := { name := some "payments-api", space := some "payments" }, replicas := some 3
      ready := some 1 }
  have hmasked := hall .zero (.deployment none d) _ "payments" "payments-api" rfl rfl rfl (by decide)
    (by decide) _ (List.mem_singleton_self _) _ (List.mem_singleton_self _) (by decide)
    (by decide +kernel) (by decide +kernel)
  exact absurd hmasked (by decide +kernel)

end Inspection
end ClusterTriage
