import ClusterTriage.Analyzer.Inspection

/-!
# Names in failures

A failure is a sentence, and its rules are a list beside it: nothing in a `Failure` says which words
of the sentence are names. So that rules can be held against names at all, every sentence is taken
apart here, into words of the analyzer, names, and what the cluster itself reported.

> **The parts spell the sentence**, and the rules beside it depend on the object alone
> (`Subject.failures_spelled`).

What is left is a comparison of two lists per kind of object. It comes out right for all names but
two: the name of a container and the name of a storage class stand in a sentence and in no rule.
-/

namespace ClusterTriage
namespace Inspection

open Cluster

/-! ## 1. Sentences in parts -/

/-- What a name names. -/
inductive Role where
  | object
  | space
  | container
  | storageClass
  | label
  | ingressClass
deriving DecidableEq

/-- A part of a sentence, by where it comes from. -/
inductive Part where
  | words (text : String)
  | name (role : Role) (text : String)
  /-- What the cluster says of the matter: reasons, messages and types of conditions. -/
  | reported (text : String)

def Part.text : Part → String
  | .words text => text
  | .name _ text => text
  | .reported text => text

def spell (parts : List Part) : String := String.join (parts.map Part.text)

theorem spell_append (a b : List Part) : spell (a ++ b) = spell a ++ spell b := by
  unfold spell
  rw [List.map_append, String.join_append]

theorem spell_cons (p : Part) (parts : List Part) : spell (p :: parts) = p.text ++ spell parts := by
  unfold spell
  rw [List.map_cons, String.join_cons]

theorem spell_nil : spell [] = "" := rfl

def qualified (d : Metadata) : List Part :=
  let own := Part.name .object (d.name.getD "")
  match d.space with
  | some ns => if ns = "" then [own] else [.name .space ns, .words "/", own]
  | none => [own]

theorem spell_qualified (d : Metadata) : spell (qualified d) = d.qualifiedName := by
  unfold qualified Metadata.qualifiedName
  cases d.space with
  | none => simp [spell_cons, spell_nil, Part.text]
  | some ns =>
    by_cases h : ns = ""
    · simp [h, spell_cons, spell_nil, Part.text]
    · simp [h, spell_cons, spell_nil, Part.text, String.append_assoc]

def containerParts? (c : ContainerStatus) : Option (List Part) :=
  match c.waiting with
  | some w =>
    match w.reason with
    | some reason =>
      if reason ∈ brokenReasons then
        some [.words "the container ", .name .container c.name, .words " is in ", .reported reason,
          .words " state: ", .reported (w.message.getD "no message reported")]
      else none
    | none => none
  | none => none

theorem containerText?_eq (c : ContainerStatus) :
    containerText? c = (containerParts? c).map spell := by
  unfold containerText? containerParts?
  cases c.waiting with
  | none => rfl
  | some w =>
    cases hr : w.reason with
    | none => simp [hr]
    | some reason =>
      by_cases h : reason ∈ brokenReasons
      · simp [hr, h, spell_cons, spell_nil, Part.text, String.append_assoc]
      · simp [hr, h]

def unschedulableParts (p : Pod) (c : Condition) : List Part :=
  .words "Pod " :: qualified p.metadata ++
    [.words " is unschedulable: ", .reported (c.message.getD "")]

def podParts (p : Pod) : List (List Part) :=
  (if p.phase = some "Pending" then
    (p.conditions.filter isUnschedulable).map (unschedulableParts p)
  else []) ++
    (p.initContainers ++ p.containers).filterMap containerParts?

theorem podTexts_eq (p : Pod) : podTexts p = (podParts p).map spell := by
  have hunschedulable : ∀ c, unschedulableText p c = spell (unschedulableParts p c) := fun c => by
    simp [unschedulableText, unschedulableParts, spell_cons, spell_append, spell_qualified, spell_nil,
      Part.text, String.append_assoc]
  have hcontainers : ∀ l : List ContainerStatus,
      l.filterMap containerText? = (l.filterMap containerParts?).map spell := fun l => by
    rw [List.map_filterMap]
    exact congrArg (List.filterMap · l) (funext containerText?_eq)
  unfold podTexts podParts
  rw [List.map_append, hcontainers]
  split
  · rw [List.map_map]
    exact congrArg (· ++ _) (List.map_congr_left fun c _ => hunschedulable c)
  · rfl

def deploymentParts (d : Deployment) : List Part :=
  .words "Deployment " :: qualified d.metadata ++
    [.words " has ", .words (toString (d.replicas.getD 1)), .words " replicas but ",
      .words (toString (d.ready.getD 0)), .words " are available"]

theorem spell_deploymentParts (d : Deployment) :
    spell (deploymentParts d) = deploymentText d (d.replicas.getD 1) (d.ready.getD 0) := by
  simp [deploymentParts, deploymentText, spell_cons, spell_append, spell_qualified, spell_nil,
    Part.text, String.append_assoc]

def selectorParts : List (String × String) → List Part
  | [] => []
  | [(label, value)] => [.name .label label, .words "=", .name .label value]
  | (label, value) :: e :: rest =>
    .name .label label :: .words "=" :: .name .label value :: .words ", " ::
      selectorParts (e :: rest)

theorem spell_selectorParts (entries : List (String × String)) :
    spell (selectorParts entries) =
      ", ".intercalate (entries.map fun (label, value) => label ++ "=" ++ value) := by
  induction entries using selectorParts.induct with
  | case1 => rfl
  | case2 label value =>
    simp [selectorParts, spell_cons, spell_nil, Part.text, String.append_assoc]
  | case3 label value e rest ih =>
    simp only [selectorParts, spell_cons, ih, List.map_cons, String.intercalate_cons_cons, Part.text,
      String.append_assoc]

def serviceParts (s : Service) : List Part :=
  .words "Service has no endpoints, expected label " :: selectorParts s.selector.entries

theorem spell_serviceParts (s : Service) : spell (serviceParts s) = serviceText s := by
  rw [serviceParts, spell_cons, spell_selectorParts]
  rfl

def claimParts (c : Claim) : List Part :=
  .words "PersistentVolumeClaim " :: qualified c.metadata ++
    [.words " is Pending (storage class ",
      match c.storageClass with
      | some name => .name .storageClass name
      | none => .words "<default>",
      .words ")"]

theorem spell_claimParts (c : Claim) : spell (claimParts c) = claimText c := by
  unfold claimParts claimText
  cases c.storageClass <;>
    simp [spell_cons, spell_append, spell_qualified, spell_nil, Part.text, String.append_assoc]

def nodeParts (name : String) (c : Condition) : List Part :=
  [.name .object name, .words " has condition of type ", .reported c.type, .words ", reason ",
    .reported (c.reason.getD ""), .words ": ", .reported (c.message.getD "")]

theorem spell_nodeParts (name : String) (c : Condition) :
    spell (nodeParts name c) = nodeText name c := by
  simp [nodeParts, nodeText, spell_cons, spell_nil, Part.text, String.append_assoc]

def classlessParts (i : Ingress) : List Part :=
  .words "Ingress " :: qualified i.metadata ++ [.words " does not specify an Ingress class"]

theorem spell_classlessParts (i : Ingress) : spell (classlessParts i) = classlessText i := by
  simp [classlessParts, classlessText, spell_cons, spell_append, spell_qualified, spell_nil,
    Part.text, String.append_assoc]

def unknownClassParts (name : String) : List Part :=
  [.words "Ingress uses the ingress class ", .name .ingressClass name, .words " which does not exist"]

theorem spell_unknownClassParts (name : String) :
    spell (unknownClassParts name) = unknownClassText name := by
  unfold unknownClassText
  rw [unknownClassParts, spell_cons, spell_cons, spell_cons, spell_nil, String.append_empty,
    String.append_assoc]
  rfl

/-! ## 2. Objects of every kind -/

/-- An object that an analyzer inspects, with what else it goes by. -/
inductive Subject where
  | pod (p : Pod)
  | deployment (documentation : Option String) (d : Deployment)
  | replicaSet (r : ReplicaSet)
  /-- A service with nothing ready behind it. -/
  | service (s : Service)
  | claim (c : Claim)
  | node (n : Node)
  | ingress (known : List String) (i : Ingress)

namespace Subject

def metadata : Subject → Metadata
  | pod p => p.metadata
  | deployment _ d => d.metadata
  | replicaSet r => r.metadata
  | service s => s.metadata
  | claim c => c.metadata
  | node n => n.metadata
  | ingress _ i => i.metadata

/-- What the analyzer of its kind has to say of an object. -/
def inspect (key : Redaction.Key) : Subject → Option Finding
  | pod p => Inspection.pod key p
  | deployment documentation d => Inspection.deployment key documentation d
  | replicaSet r => Inspection.replicaSet key r
  | service s => some (Inspection.service key s)
  | claim c => Inspection.claim key c
  | node n => Inspection.node key n
  | ingress known i => Inspection.ingress key known i

/-- The sentences on an object, taken apart. -/
def sentences : Subject → List (List Part)
  | pod p => podParts p
  | deployment _ d => [deploymentParts d]
  | replicaSet r => (r.conditions.filter isReplicaFailure).map fun c =>
      [.reported (replicaFailureText c)]
  | service s => [serviceParts s]
  | claim c => [claimParts c]
  | node n => (n.conditions.filter isNodeProblem).map (nodeParts (n.metadata.name.getD ""))
  | ingress known i =>
    match ingressClass? i with
    | none => [classlessParts i]
    | some name => if name ∈ known then [] else [unknownClassParts name]

/-- The rules of every failure of an object. -/
def hidden (key : Redaction.Key) : Subject → Redaction.Rules
  | pod p => rules key p.metadata
  | deployment _ d => rules key d.metadata
  | replicaSet r => rules key r.metadata
  | service s => rules key s.metadata ++ labelRules key s
  | claim c => rules key c.metadata
  | node n => [key.rule (n.metadata.name.getD "")]
  | ingress _ i => rules key i.metadata ++ (ingressClass? i).toList.map key.rule

end Subject

theorem failures_of_finding? {kind : String} {d : Metadata} {failures : List Failure}
    {parent : Option String} {f : Finding} (h : finding? kind d failures parent = some f) :
    f.failures = failures := by
  unfold finding? at h
  split at h
  · cases h
  · cases h
    rfl

variable {key : Redaction.Key} {x : Subject} {f : Finding}

/-- **The failures of an object are its sentences**, each with the rules that belong to the object. -/
theorem Subject.failures_spelled (h : x.inspect key = some f) :
    f.failures.map (fun g => (g.text, g.sensitive)) =
      x.sentences.map fun parts => (spell parts, x.hidden key) := by
  cases x with
  | pod p =>
    simp only [inspect, Inspection.pod] at h
    rw [failures_of_finding? h, podTexts_eq, List.map_map, List.map_map]
    rfl
  | deployment documentation d =>
    simp only [inspect, Inspection.deployment] at h
    split at h
    · cases h
    · rw [failures_of_finding? h]
      simp only [sentences, hidden, List.map_singleton, spell_deploymentParts]
  | replicaSet r =>
    simp only [inspect, Inspection.replicaSet] at h
    rw [failures_of_finding? h, sentences, List.map_map, List.map_map]
    refine List.map_congr_left fun c _ => ?_
    simp [hidden, spell_cons, spell_nil, Part.text]
  | service s =>
    obtain rfl : Inspection.service key s = f := Option.some.inj h
    simp only [Inspection.service, sentences, hidden, List.map_singleton, spell_serviceParts]
  | claim c =>
    simp only [inspect, Inspection.claim] at h
    split at h
    · rw [failures_of_finding? h]
      simp only [sentences, hidden, List.map_singleton, spell_claimParts]
    · cases h
  | node n =>
    simp only [inspect, Inspection.node] at h
    rw [failures_of_finding? h, sentences, List.map_map, List.map_map]
    refine List.map_congr_left fun c _ => ?_
    simp only [Function.comp_apply, spell_nodeParts]
    rfl
  | ingress known i =>
    simp only [inspect, Inspection.ingress] at h
    cases hclass : ingressClass? i with
    | none =>
      simp only [hclass] at h
      rw [failures_of_finding? h]
      simp only [sentences, hidden, hclass, List.map_singleton, spell_classlessParts,
        Option.toList_none, List.map_nil, List.append_nil]
    | some name =>
      by_cases hname : name ∈ known
      · simp only [hclass, hname, if_true] at h
        cases h
      · simp only [hclass, hname, if_false] at h
        rw [failures_of_finding? h]
        simp only [sentences, hidden, hclass, hname, if_false, List.map_singleton,
          spell_unknownClassParts, Option.toList_some]

/-! ## 3. Names and rules -/

/-- Whether an object bears a name itself, or lives in the namespace of that name. -/
def Bears (d : Metadata) (n : String) : Prop := d.space = some n ∨ d.name = some n

variable {d : Metadata} {role : Role} {n : String}

theorem rule_inj {m n : String} (h : key.rule m = key.rule n) : m = n :=
  (Redaction.Rule.mk.inj h).1

theorem mem_rules (hn : n ≠ "") : key.rule n ∈ rules key d ↔ Bears d n := by
  unfold rules Bears
  constructor
  · intro h
    obtain ⟨m, hm, hrule⟩ := List.mem_map.mp h
    obtain rfl := rule_inj hrule
    have hin := (List.mem_filter.mp hm).1
    simpa [List.mem_filterMap, eq_comm] using hin
  · intro h
    refine List.mem_map_of_mem (List.mem_filter.mpr ⟨?_, by simpa using hn⟩)
    simpa [List.mem_filterMap, eq_comm] using h

/-- A name that is looked up where one may be missing is a name that is there. -/
theorem eq_some_of_getD {o : Option String} (h : n = o.getD "") (hn : n ≠ "") : o = some n := by
  cases o with
  | none => exact absurd h hn
  | some m => rw [h, Option.getD_some]

theorem bears_of_mem_qualified (h : Part.name role n ∈ qualified d) (hn : n ≠ "") :
    (role = .object ∨ role = .space) ∧ Bears d n := by
  unfold qualified at h
  cases hspace : d.space with
  | none =>
    simp only [hspace, List.mem_singleton, Part.name.injEq] at h
    exact ⟨.inl h.1, .inr (eq_some_of_getD h.2 hn)⟩
  | some ns =>
    simp only [hspace] at h
    split at h
    · simp only [List.mem_singleton, Part.name.injEq] at h
      exact ⟨.inl h.1, .inr (eq_some_of_getD h.2 hn)⟩
    · simp only [List.mem_cons, Part.name.injEq, reduceCtorEq, List.not_mem_nil, or_false,
        false_or] at h
      rcases h with ⟨hrole, rfl⟩ | ⟨hrole, hname⟩
      · exact ⟨.inr hrole, .inl hspace⟩
      · exact ⟨.inl hrole, .inr (eq_some_of_getD hname hn)⟩

theorem mem_selectorParts {entries : List (String × String)}
    (h : Part.name role n ∈ selectorParts entries) :
    role = .label ∧ ∃ e ∈ entries, n = e.1 ∨ n = e.2 := by
  induction entries using selectorParts.induct with
  | case1 => cases h
  | case2 label value =>
    simp only [selectorParts, List.mem_cons, Part.name.injEq, reduceCtorEq, List.not_mem_nil,
      or_false, false_or] at h
    rcases h with ⟨hrole, hn⟩ | ⟨hrole, hn⟩
    · exact ⟨hrole, _, List.mem_cons_self, .inl hn⟩
    · exact ⟨hrole, _, List.mem_cons_self, .inr hn⟩
  | case3 label value e rest ih =>
    simp only [selectorParts, List.mem_cons, Part.name.injEq, reduceCtorEq, false_or] at h
    rcases h with ⟨hrole, hn⟩ | ⟨hrole, hn⟩ | h
    · exact ⟨hrole, _, List.mem_cons_self, .inl hn⟩
    · exact ⟨hrole, _, List.mem_cons_self, .inr hn⟩
    · obtain ⟨hrole, e', he', hn⟩ := ih h
      exact ⟨hrole, e', List.mem_cons_of_mem _ he', hn⟩

/-- The roles whose names an analyzer hides for their own sake. -/
def Role.Covered (role : Role) : Prop := role ≠ .container ∧ role ≠ .storageClass

theorem role_of_containerParts? {c : ContainerStatus} {parts : List Part}
    (hparts : containerParts? c = some parts) (h : Part.name role n ∈ parts) :
    role = .container := by
  unfold containerParts? at hparts
  cases hw : c.waiting with
  | none => simp only [hw, reduceCtorEq] at hparts
  | some w =>
    cases hr : w.reason with
    | none => simp only [hw, hr, reduceCtorEq] at hparts
    | some reason =>
      simp only [hw, hr, Option.ite_none_right_eq_some, Option.some.injEq] at hparts
      obtain ⟨-, rfl⟩ := hparts
      simp only [List.mem_cons, Part.name.injEq, reduceCtorEq, List.not_mem_nil, false_or,
        or_false] at h
      exact h.1

theorem bears_of_podParts {p : Pod} {parts : List Part} (hparts : parts ∈ podParts p)
    (h : Part.name role n ∈ parts) (hn : n ≠ "") (hrole : role.Covered) : Bears p.metadata n := by
  rcases List.mem_append.mp hparts with hparts | hparts
  · split at hparts
    · obtain ⟨c, -, rfl⟩ := List.mem_map.mp hparts
      simp only [unschedulableParts, List.cons_append, List.mem_cons, List.mem_append, reduceCtorEq,
        List.not_mem_nil, false_or, or_false] at h
      exact (bears_of_mem_qualified h hn).2
    · cases hparts
  · obtain ⟨c, -, hc⟩ := List.mem_filterMap.mp hparts
    exact absurd (role_of_containerParts? hc h) hrole.1

theorem bears_of_claimParts {c : Claim} (h : Part.name role n ∈ claimParts c) (hn : n ≠ "")
    (hrole : role.Covered) : Bears c.metadata n := by
  unfold claimParts at h
  cases hclass : c.storageClass <;>
    simp only [hclass, List.cons_append, List.mem_cons, List.mem_append, Part.name.injEq,
      reduceCtorEq, List.not_mem_nil, false_or, or_false] at h
  · exact (bears_of_mem_qualified h hn).2
  · rcases h with h | ⟨h, -⟩
    · exact (bears_of_mem_qualified h hn).2
    · exact absurd h hrole.2

namespace Subject

variable {parts : List Part}

/-- A name that an analyzer covers has its rule, in every sentence of every kind. -/
theorem rule_mem_hidden (hparts : parts ∈ x.sentences) (h : Part.name role n ∈ parts) (hn : n ≠ "")
    (hrole : role.Covered) : key.rule n ∈ x.hidden key := by
  cases x with
  | pod p => exact (mem_rules hn).mpr (bears_of_podParts hparts h hn hrole)
  | deployment documentation d =>
    obtain rfl := List.mem_singleton.mp hparts
    simp only [deploymentParts, List.cons_append, List.mem_cons, List.mem_append, reduceCtorEq,
      List.not_mem_nil, false_or, or_false] at h
    exact (mem_rules hn).mpr (bears_of_mem_qualified h hn).2
  | replicaSet r =>
    obtain ⟨c, -, rfl⟩ := List.mem_map.mp hparts
    cases List.mem_singleton.mp h
  | service s =>
    obtain rfl := List.mem_singleton.mp hparts
    simp only [serviceParts, List.mem_cons, reduceCtorEq, false_or] at h
    obtain ⟨-, e, he, hname⟩ := mem_selectorParts h
    refine List.mem_append_right _ (List.mem_flatMap.mpr ⟨e, he, ?_⟩)
    rcases hname with rfl | rfl <;> simp
  | claim c =>
    obtain rfl := List.mem_singleton.mp hparts
    exact (mem_rules hn).mpr (bears_of_claimParts h hn hrole)
  | node node =>
    obtain ⟨c, -, rfl⟩ := List.mem_map.mp hparts
    simp only [nodeParts, List.mem_cons, Part.name.injEq, reduceCtorEq, List.not_mem_nil,
      or_false] at h
    rw [h.2]
    exact List.mem_singleton_self _
  | ingress known i =>
    cases hclass : ingressClass? i with
    | none =>
      simp only [sentences, hclass, List.mem_singleton] at hparts
      subst hparts
      simp only [classlessParts, List.cons_append, List.mem_cons, List.mem_append, reduceCtorEq,
        List.not_mem_nil, false_or, or_false] at h
      exact List.mem_append_left _ ((mem_rules hn).mpr (bears_of_mem_qualified h hn).2)
    | some name =>
      simp only [sentences, hclass] at hparts
      split at hparts
      · cases hparts
      · obtain rfl := List.mem_singleton.mp hparts
        simp only [unknownClassParts, List.mem_cons, Part.name.injEq, reduceCtorEq,
          List.not_mem_nil, false_or, or_false] at h
        refine List.mem_append_right _ ?_
        simp [hclass, h.2]

/-- Only pods and claims name what they do not cover, and those hide no more than they bear. -/
theorem hidden_of_not_covered (hparts : parts ∈ x.sentences) (h : Part.name role n ∈ parts)
    (hrole : ¬ role.Covered) : x.hidden key = rules key x.metadata := by
  cases x with
  | pod p => rfl
  | deployment documentation d => rfl
  | replicaSet r => rfl
  | claim c => rfl
  | service s =>
    obtain rfl := List.mem_singleton.mp hparts
    simp only [serviceParts, List.mem_cons, reduceCtorEq, false_or] at h
    obtain ⟨rfl, -⟩ := mem_selectorParts h
    exact absurd ⟨nofun, nofun⟩ hrole
  | node node =>
    obtain ⟨c, -, rfl⟩ := List.mem_map.mp hparts
    simp only [nodeParts, List.mem_cons, Part.name.injEq, reduceCtorEq, List.not_mem_nil,
      or_false] at h
    obtain ⟨rfl, -⟩ := h
    exact absurd ⟨nofun, nofun⟩ hrole
  | ingress known i =>
    cases hclass : ingressClass? i with
    | none => simp [hidden, metadata, hclass]
    | some name =>
      simp only [sentences, hclass] at hparts
      split at hparts
      · cases hparts
      · obtain rfl := List.mem_singleton.mp hparts
        simp only [unknownClassParts, List.mem_cons, Part.name.injEq, reduceCtorEq,
          List.not_mem_nil, false_or, or_false] at h
        obtain ⟨rfl, -⟩ := h
        exact absurd ⟨nofun, nofun⟩ hrole

theorem rule_mem_hidden_iff (hparts : parts ∈ x.sentences) (h : Part.name role n ∈ parts)
    (hn : n ≠ "") : key.rule n ∈ x.hidden key ↔ role.Covered ∨ Bears x.metadata n := by
  constructor
  · intro hin
    refine Classical.or_iff_not_imp_left.mpr fun hrole => ?_
    rw [hidden_of_not_covered hparts h hrole] at hin
    exact (mem_rules hn).mp hin
  · intro hname
    by_cases hrole : role.Covered
    · exact rule_mem_hidden hparts h hn hrole
    · rw [hidden_of_not_covered hparts h hrole]
      exact (mem_rules hn).mpr (hname.resolve_left hrole)

end Subject

/-! ## 4. Failures -/

/-- **Which names a failure hides**: all that its object is known by, its labels and its class of
ingress; of containers and storage classes only those that bear the name of the object as well. -/
theorem failures_hide_names (h : x.inspect key = some f) :
    f.failures.map Failure.text = x.sentences.map spell ∧
      ∀ g ∈ f.failures, ∀ parts ∈ x.sentences, ∀ role n, .name role n ∈ parts → n ≠ "" →
        (key.rule n ∈ g.sensitive ↔ role.Covered ∨ Bears x.metadata n) := by
  have hspelled := Subject.failures_spelled h
  constructor
  · have := congrArg (List.map Prod.fst) hspelled
    simpa only [List.map_map, Function.comp_def] using this
  · intro g hg parts hparts role n hname hn
    have hmem := List.mem_map_of_mem (f := fun g : Failure => (g.text, g.sensitive)) hg
    rw [hspelled] at hmem
    obtain ⟨_, -, heq⟩ := List.mem_map.mp hmem
    rw [← (Prod.mk.inj heq).2]
    exact Subject.rule_mem_hidden_iff hparts hname hn

/-- Of a claim that waits for storage its own names are hidden, the name of the storage class is not. -/
theorem a_waiting_claim_hides_names :
    let x := Subject.claim
      { metadata := { name := some "data", space := some "db" }, phase := some "Pending"
        storageClass := some "fast-ssd" }
    ∃ f, x.inspect .zero = some f ∧
      f.failures.map Failure.text =
        ["PersistentVolumeClaim db/data is Pending (storage class fast-ssd)"] ∧
      ∀ g ∈ f.failures, Redaction.Key.zero.rule "db" ∈ g.sensitive ∧
        Redaction.Key.zero.rule "data" ∈ g.sensitive ∧
        Redaction.Key.zero.rule "fast-ssd" ∉ g.sensitive := by
  intro x
  obtain ⟨f, hf⟩ : ∃ f, x.inspect .zero = some f := ⟨_, rfl⟩
  obtain ⟨htexts, hnames⟩ := failures_hide_names hf
  have hsentences : x.sentences =
      [[.words "PersistentVolumeClaim ", .name .space "db", .words "/", .name .object "data",
        .words " is Pending (storage class ", .name .storageClass "fast-ssd", .words ")"]] := rfl
  rw [hsentences] at htexts hnames
  refine ⟨f, hf, htexts, fun g hg => ?_⟩
  have hiff := hnames g hg _ (List.mem_singleton_self _)
  refine ⟨(hiff .space "db" (by simp) (by decide)).mpr (.inl ⟨nofun, nofun⟩),
    (hiff .object "data" (by simp) (by decide)).mpr (.inl ⟨nofun, nofun⟩), fun hrule => ?_⟩
  rcases (hiff .storageClass "fast-ssd" (by simp) (by decide)).mp hrule with h | h
  · exact h.2 rfl
  · simp [Bears, x, Subject.metadata] at h

/-- Not every name is hidden: the name of a broken container is in a failure, and no rule for it. -/
theorem a_broken_container_keeps_its_name :
    ¬ ∀ (key : Redaction.Key) (x : Subject) (f : Finding), x.inspect key = some f →
      ∀ g ∈ f.failures, ∀ parts ∈ x.sentences, g.text = spell parts →
        ∀ role n, .name role n ∈ parts → n ≠ "" → key.rule n ∈ g.sensitive := by
  intro hall
  let broken : Waiting := { reason := some "CrashLoopBackOff", message := some "back-off" }
  let p : Pod :=
    { metadata := { name := some "web-1", space := some "shop" }, phase := some "Running"
      containers := [{ name := "ledger", waiting := some broken }] }
  have hrule := hall .zero (.pod p) _ rfl _ (List.mem_singleton_self _) _
    (List.mem_singleton_self _) (by rfl) .container "ledger" (by simp) (by decide)
  have hbears := (mem_rules (by decide)).mp hrule
  simp [Bears, p] at hbears

end Inspection
end ClusterTriage
