import ClusterTriage.Proofs.Run.Verdict
import ClusterTriage.Proofs.Text.Substitution
import ClusterTriage.Report.Text

/-!
# The line that says that nothing was found

A report for people has a line for it, and a report as JSON has a verdict. The line is written if there is
no finding, the verdict is fine if there is no failure, and that is the same as long as no finding is empty.
A custom analyzer may bring a finding without failures, and about a run with nothing but such findings the
text lists them and has no line, while the verdict is fine.

> **The line is written exactly if there is no finding** (`saysAllClear_iff`), and the verdict is fine then;
> **the two part only over findings that are all empty**
> (`text_and_verdict_part_over_empty_findings_only`), each of them as a custom analyzer brought it.

That an empty finding is one that a custom analyzer brought is an invariant of the store, which each phase
keeps (`Moves.accounted`).
-/

namespace ClusterTriage

/-! ## 1. Texts in a style -/

namespace Text

/-- In one style no other text looks like a text without codes: where a reset of its own is followed by the
opening of the style again, a code is left. -/
theorem styled_eq_iff (colour : Bool) (attributes : List Attribute) {s t : String}
    (ht : '\x1b' ∉ t.toList) : styled colour attributes s = styled colour attributes t ↔ s = t := by
  refine ⟨fun h => ?_, fun h => by rw [h]⟩
  cases colour with
  | false => exact h
  | true =>
    have hread : replaceString reset (reset ++ opening attributes) s =
        replaceString reset (reset ++ opening attributes) t := by simpa [styled] using h
    have hkept : replaceAll reset.toList (reset ++ opening attributes).toList t.toList = t.toList := by
      refine replaceAll_of_not_occurs fun hreset => ht (hreset.subset ?_)
      decide
    have hsame : replaceAll reset.toList (reset ++ opening attributes).toList s.toList = t.toList := by
      rw [← toList_replaceString, hread, toList_replaceString, hkept]
    -- an occurrence of a reset in the other text would have left its code
    have hcode : '\x1b' ∈ (reset ++ opening attributes).toList := by
      rw [String.toList_append]
      exact List.mem_append_left _ (by decide)
    have hreplaced : Replaced reset.toList (reset ++ opening attributes).toList s.toList
        (replaceAll reset.toList (reset ++ opening attributes).toList s.toList) :=
      replaced_replaceAll (by decide) s.toList
    rw [hsame] at hreplaced
    exact String.toList_inj.mp (hreplaced.eq_of_not_mem hcode ht).symm

end Text

/-! ## 2. The lines of a report -/

namespace Report

open Text

variable {colour : Bool}

/-- Whether the details of a finding read like the line that says that nothing was found. -/
def echoesAllClear (f : Finding) : Bool := f.details == some "No problems detected"

/-- A report says that nothing was found: it has the line for it, and more often than as the details of
findings. -/
def SaysAllClear (colour : Bool) (r : Report) : Prop :=
  r.findings.countP echoesAllClear < (r.lines colour).count (allClear colour)

/-- The line begins with its first letter or with the code of its style. -/
theorem ne_allClear_of_head {line : String} {c : Char} (h : line.toList.head? = some c) (hletter : c ≠ 'N')
    (hcode : c ≠ '\x1b') : line ≠ allClear colour := by
  rintro rfl
  cases colour with
  | false => exact hletter (Option.some.inj (h.symm.trans (by decide)))
  | true => exact hcode (Option.some.inj (h.symm.trans (by decide)))

theorem empty_ne_allClear : "" ≠ allClear colour := by
  cases colour <;> decide

theorem not_mem_providerLines (provider : String) : allClear colour ∉ providerLines colour provider := by
  unfold providerLines
  split
  · exact List.not_mem_nil
  · intro hmem
    rcases List.mem_pair.mp hmem with hline | hline
    · exact ne_allClear_of_head (c := 'A') (by simp) (by decide) (by decide) hline.symm
    · exact empty_ne_allClear hline.symm

theorem not_mem_warningLines (errors : List String) : allClear colour ∉ warningLines colour errors := by
  unfold warningLines
  split
  · exact List.not_mem_nil
  · intro hmem
    rcases List.mem_cons.mp hmem with hhead | hmem
    · cases colour <;> exact absurd hhead (by decide)
    · rcases List.mem_append.mp hmem with herror | hlast
      · obtain ⟨e, -, hline⟩ := List.mem_map.mp herror
        exact ne_allClear_of_head (c := '-') (by simp) (by decide) (by decide) hline
      · exact empty_ne_allClear (List.mem_singleton.mp hlast).symm

theorem not_mem_timingLines (timings : List Timing) : allClear colour ∉ timingLines colour timings := by
  unfold timingLines
  split
  · exact List.not_mem_nil
  · intro hmem
    rcases List.mem_cons.mp hmem with hhead | hmem
    · cases colour <;> exact absurd hhead (by decide)
    · obtain ⟨timing, -, hline⟩ := List.mem_map.mp hmem
      exact ne_allClear_of_head (c := '-') (by simp) (by decide) (by decide) hline

theorem not_mem_failureLines (f : Failure) : allClear colour ∉ failureLines colour f := by
  intro hmem
  rcases List.mem_cons.mp hmem with herror | hmem
  · exact ne_allClear_of_head (c := '-') (by simp) (by decide) (by decide) herror.symm
  · cases hdoc : f.documentation with
    | none =>
      rw [hdoc] at hmem
      exact absurd hmem List.not_mem_nil
    | some doc =>
      rw [hdoc] at hmem
      exact ne_allClear_of_head (c := ' ') (by simp) (by decide) (by decide) (List.mem_singleton.mp hmem).symm

/-- A finding is headed by its number and a colon, in a style that is not the one of the line. -/
theorem numbered_ne_allClear (index : Nat) (kind rest : String) :
    styled colour [.bold] (toString index ++ ": " ++ kind) ++ rest ≠ allClear colour := by
  intro h
  have hlist := congrArg String.toList h
  cases colour with
  | false =>
    have hcolon : ':' ∈ (allClear false).toList := by
      rw [← hlist]
      simp [styled]
    exact absurd hcolon (by decide)
  | true =>
    have hbold : (allClear true).toList[2]? = some '1' := by
      rw [← hlist]
      simp [styled, opening, Attribute.code]
    exact absurd hbold (by decide)

/-- The line is among those of a finding if its details read like it, and only then. -/
theorem count_findingLines (index : Nat) (f : Finding) :
    (findingLines colour index f).count (allClear colour) = if echoesAllClear f then 1 else 0 := by
  have hfailures : (f.failures.flatMap (failureLines colour)).count (allClear colour) = 0 := by
    refine List.count_eq_zero_of_not_mem fun hmem => ?_
    obtain ⟨failure, -, hline⟩ := List.mem_flatMap.mp hmem
    exact not_mem_failureLines failure hline
  have hlast : [""].count (allClear colour) = 0 :=
    List.count_eq_zero_of_not_mem fun hmem => empty_ne_allClear (List.mem_singleton.mp hmem).symm
  unfold findingLines
  dsimp only
  rw [List.cons_append, List.cons_append, List.count_cons_of_ne, List.count_append, List.count_append,
    hfailures, hlast, Nat.zero_add, Nat.add_zero]
  · unfold echoesAllClear
    cases f.details with
    | none => rfl
    | some details =>
      have hsame : styled colour [.green] details = allClear colour ↔ details = "No problems detected" :=
        styled_eq_iff colour [.green] (by decide)
      simp [List.count_singleton, hsame]
  · rw [String.append_assoc, String.append_assoc]
    exact numbered_ne_allClear index f.kind _

theorem count_flatMap_findingLines (findings : List Finding) (n : Nat) :
    ((findings.zipIdx n).flatMap fun entry => findingLines colour entry.2 entry.1).count (allClear colour) =
      findings.countP echoesAllClear := by
  induction findings generalizing n with
  | nil => rfl
  | cons f rest ih =>
    rw [List.zipIdx_cons, List.flatMap_cons, List.count_append, ih, count_findingLines, List.countP_cons,
      Nat.add_comm]

/-- **The line is written if there is no finding**, and otherwise only as the details of findings. -/
theorem count_allClear (r : Report) :
    (r.lines colour).count (allClear colour) =
      (if r.findings = [] then 1 else 0) + r.findings.countP echoesAllClear := by
  unfold lines
  rw [List.count_append, List.count_append, List.count_append, List.count_append,
    List.count_eq_zero_of_not_mem (not_mem_providerLines r.provider),
    List.count_eq_zero_of_not_mem (not_mem_warningLines r.errors), count_flatMap_findingLines,
    List.count_eq_zero_of_not_mem (not_mem_timingLines r.timings), Nat.add_zero, Nat.zero_add]
  congr 1
  cases r.findings with
  | nil => simp
  | cons f rest => rfl

theorem saysAllClear_iff (r : Report) : r.SaysAllClear colour ↔ r.findings = [] := by
  unfold SaysAllClear
  rw [count_allClear]
  split
  case isTrue hnone => exact iff_of_true (by omega) hnone
  case isFalse hsome => exact iff_of_false (by omega) hsome

end Report

/-! ## 3. Findings without failures -/

namespace Run

variable {σ : Type} {w : Surroundings (StateM σ)} {x : Context (StateM σ)} {o : RunOptions}
  {connect : Plugin → StateM σ (Trial Plugin.Reply)} {s t : Store}

/-- A finding is as a usable entry of the configuration brought it, up to its details and a kind that it
did not have. -/
def Replied (o : RunOptions) (connect : Plugin → StateM σ (Trial Plugin.Reply)) (f : Finding) : Prop :=
  ∃ p ∈ o.plugins.filter fun p => p.validate.isOk, ∃ g duration,
    CanBring (connect p) ⟨.finding g, duration⟩ ∧
    f = { g with kind := if g.kind = "" then p.name else g.kind, details := f.details }

/-- A finding has failures, or else a custom analyzer is behind it. -/
def Accounted (o : RunOptions) (connect : Plugin → StateM σ (Trial Plugin.Reply)) (f : Finding) : Prop :=
  f.failures = [] → Replied o connect f

theorem Accounted.of_details {f f' : Finding} (h : Accounted o connect f)
    (hdetails : f' = { f with details := f'.details }) : Accounted o connect f' := by
  intro hempty
  have hbefore : f.failures = [] := by rwa [hdetails] at hempty
  obtain ⟨p, hp, g, duration, hbrings, hf⟩ := h hbefore
  refine ⟨p, hp, g, duration, hbrings, ?_⟩
  rw [hdetails, hf]

/-- A phase brings no empty finding but such as a custom analyzer replied. -/
theorem Moves.accounted (h : Moves w x o connect s t) (hs : ∀ f ∈ s.findings, Accounted o connect f) :
    ∀ f ∈ t.findings, Accounted o connect f := by
  intro f hf
  cases h with
  | analysis brought takes =>
    rcases takes.findings hf with hf | ⟨job, hjob, hf⟩
    · exact hs f hf
    · exact fun hempty => absurd hempty (failures_ne_nil_of_brought brought job hjob f hf)
  | custom answered takes =>
    rcases takes.findings hf with hf | ⟨job, hjob, hf⟩
    · exact hs f hf
    · obtain ⟨a, ha, rfl⟩ := List.mem_map.mp hjob
      obtain ⟨_, hp, rfl, hbrings⟩ := exists_of_mem_right answered ha
      rw [a.findings_job, Option.mem_toList] at hf
      rcases a.one_of with ⟨g, hreply, hfinding, -⟩ | ⟨-, hnone, -⟩
      · rw [hfinding] at hf
        obtain rfl := Option.some.inj hf
        rw [hreply] at hbrings
        exact fun _ => ⟨a.plugin, hp, g, a.duration, hbrings, rfl⟩
      · rw [hnone] at hf
        cases hf
  | explained run =>
    obtain ⟨g, hg, hdetails⟩ := exists_of_mem_right (explain_details run) hf
    exact (hs g hg).of_details hdetails

/-- **Every empty finding of a run is as a custom analyzer replied it.** -/
theorem accounted_of_moves (h : Relation.ReflTransGen (Moves w x o connect) {} s) :
    ∀ f ∈ s.findings, Accounted o connect f := by
  induction h with
  | refl => exact nofun
  | tail _ hmove ih => exact hmove.accounted ih

/-! ## 4. The text and the verdict -/

theorem verdict_eq_ok_iff_sum {provider : String} :
    (Report.ofStore provider s).verdict = .ok ↔ (s.findings.map (·.failures.length)).sum = 0 := by
  show (if Report.countProblems s.findings = 0 then Verdict.ok else .problemDetected) = .ok ↔
    Report.countProblems s.findings = 0
  rw [ite_eq_left_iff]
  simp

/-- What a report as JSON has under `status`. -/
theorem status_eq_ok_iff (r : Report) :
    r.toDatum.field? "status" = some (.string "OK") ↔ r.verdict = .ok := by
  have hstatus : r.toDatum.field? "status" = some (.string r.verdict.name) := by
    unfold Report.toDatum
    split <;> rfl
  rw [hstatus]
  cases r.verdict <;> simp [Verdict.name]

theorem sum_eq_zero_iff_failures (findings : List Finding) :
    (findings.map (·.failures.length)).sum = 0 ↔ ∀ f ∈ findings, f.failures = [] := by
  rw [List.sum_eq_zero_iff_forall_eq_nat]
  simp

/-- **The text and the verdict part over empty findings only.** On whatever store the phases of a run come
to, with custom analyzers that are reached in any way and bring what they like, the verdict of the report is
fine, and its JSON says so, if and only if the failures of all findings add up to none; and the text says
that nothing was found if and only if there is no finding. So it never says so of a run that is not fine, and
the two agree if and only if nothing was found or some finding has a failure. A finding without failures is
as a custom analyzer of the configuration brought it, so they agree wherever no custom analyzer brings such a
one. The reports of the program are on stores of this kind. -/
theorem text_and_verdict_part_over_empty_findings_only (w : Surroundings (StateM σ)) (x : Context (StateM σ))
    (o : RunOptions) :
    (∀ connect s, Relation.ReflTransGen (Moves w x o connect) {} s → ∀ provider colour,
      let report := Report.ofStore provider s
      (report.toDatum.field? "status" = some (.string "OK") ↔ report.verdict = .ok) ∧
      (report.verdict = .ok ↔ (report.findings.map (·.failures.length)).sum = 0) ∧
      (report.SaysAllClear colour ↔ report.findings = []) ∧
      (report.SaysAllClear colour → report.verdict = .ok) ∧
      ((report.SaysAllClear colour ↔ report.verdict = .ok) ↔
        report.findings = [] ∨ ∃ f ∈ report.findings, f.failures ≠ []) ∧
      (∀ f ∈ report.findings, f.failures = [] → Replied o connect f) ∧
      ((∀ f, Replied o connect f → f.failures ≠ []) →
        (report.SaysAllClear colour ↔ report.verdict = .ok))) ∧
    ∀ e w₀ w₁ report, (Program.examine w o x e).run w₀ = (.ok report, w₁) →
      ∃ s provider, Relation.ReflTransGen (Moves w x o (Plugin.Connector.http w).reach) {} s ∧
        report = .ofStore provider s := by
  refine ⟨fun connect s hmoves provider colour => ?_, fun _ _ _ _ => exists_moves_of_examine⟩
  intro report
  have haccounted := accounted_of_moves hmoves
  have hfine : report.verdict = .ok ↔ ∀ f ∈ report.findings, f.failures = [] :=
    verdict_eq_ok_iff_sum.trans (sum_eq_zero_iff_failures s.findings)
  have hline : report.SaysAllClear colour ↔ report.findings = [] := report.saysAllClear_iff
  have hsound : report.SaysAllClear colour → report.verdict = .ok := by
    intro h
    rw [hfine, hline.mp h]
    exact nofun
  have hagree : (report.SaysAllClear colour ↔ report.verdict = .ok) ↔
      report.findings = [] ∨ ∃ f ∈ report.findings, f.failures ≠ [] := by
    constructor
    · intro h
      by_cases hfailures : ∃ f ∈ report.findings, f.failures ≠ []
      · exact .inr hfailures
      · push Not at hfailures
        exact .inl (hline.mp (h.mpr (hfine.mpr hfailures)))
    · rintro (hnone | ⟨f, hf, hfailures⟩)
      · exact iff_of_true (hline.mpr hnone) (hsound (hline.mpr hnone))
      · have hproblem : report.verdict ≠ .ok := fun h => hfailures (hfine.mp h f hf)
        exact iff_of_false (mt hsound hproblem) hproblem
  refine ⟨status_eq_ok_iff report, verdict_eq_ok_iff_sum, hline, hsound, hagree, haccounted,
    fun hreplied => hagree.mpr ?_⟩
  cases hfindings : report.findings with
  | nil => exact .inl rfl
  | cons f rest =>
    have hf : f ∈ report.findings := hfindings ▸ List.mem_cons_self
    exact .inr ⟨f, List.mem_cons_self, fun hempty => hreplied f (haccounted f hf hempty) hempty⟩

/-- A run ends well if its result, given that it did, is known to be something. -/
theorem exists_ok_of_map {α β ε τ : Type} {run : Except ε α × τ} {f : α → β} {b : β}
    (h : run.1.toOption.map f = some b) : ∃ a t, run = (.ok a, t) ∧ f a = b := by
  obtain ⟨result, t⟩ := run
  cases result with
  | error e => cases h
  | ok a => exact ⟨a, t, rfl, Option.some.inj h⟩

/-- Surroundings in which custom analyzers answer with the bodies that are left, one after another, and the
cluster has no objects. -/
def answering : Surroundings (StateM (List String)) where
  home := none
  userCache := none
  workingDirectory := none
  colour := false
  send := fun _ bodies => (bodies.head?.map fun body => ⟨200, Text.Utf8.encode body⟩, bodies.tail)
  dial := fun _ => ⟨fun _ => pure (.ok ⟨200, Text.Utf8.encode "\x7b\"items\":[]\x7d"⟩)⟩
  freshKey := pure .zero
  now := pure 0

/-- **An empty finding is listed, and is no problem**: a custom analyzer names a disk and nothing that is
wrong with it. -/
theorem an_empty_finding_is_fine_and_listed :
    let x : Context (StateM (List String)) := { connection := some (answering.dial {}) }
    let o : RunOptions := { filters := ["Node"], plugins := [⟨"disk-usage", "localhost", 8085⟩] }
    ¬ ∀ s, Relation.ReflTransGen (Moves answering x o (Plugin.Connector.http answering).reach) {} s →
      ∀ provider colour,
        ((Report.ofStore provider s).SaysAllClear colour ↔ (Report.ofStore provider s).verdict = .ok) := by
  intro x o h
  have hrun : ((Program.examine answering o x none).run
      ["\x7b\"result\":\x7b\"name\":\"sda\"\x7d\x7d"]).1.toOption.map (fun r => (r.findings, r.verdict)) =
        some ([{ kind := "disk-usage", name := "sda" }], .ok) := by decide +kernel
  obtain ⟨report, left, hexamine, hreport⟩ := exists_ok_of_map hrun
  obtain ⟨hfindings, hverdict⟩ := Prod.mk.inj hreport
  obtain ⟨s, provider, hmoves, rfl⟩ := exists_moves_of_examine hexamine
  have hnone := (Report.saysAllClear_iff _).mp ((h s hmoves provider false).mpr hverdict)
  rw [hfindings] at hnone
  cases hnone

/-- Of two disks one is full: the text and the verdict both say that something was found. -/
theorem a_full_disk_shows_beside_an_empty_finding :
    let x : Context (StateM (List String)) := { connection := some (answering.dial {}) }
    let o : RunOptions :=
      { filters := ["Node"]
        plugins := [⟨"disk-usage", "localhost", 8085⟩, ⟨"disk-health", "localhost", 8086⟩] }
    let bodies :=
      ["\x7b\"result\":\x7b\"name\":\"sda\"\x7d\x7d",
        "\x7b\"result\":\x7b\"name\":\"sdb\",\"error\":[\x7b\"text\":\"disk full\"\x7d]\x7d\x7d"]
    ∃ report left, (Program.examine answering o x none).run bodies = (.ok report, left) ∧
      report.findings = [{ kind := "disk-usage", name := "sda" },
        { kind := "disk-health", name := "sdb", failures := [{ text := "disk full" }] }] ∧
      (report.SaysAllClear false ↔ report.verdict = .ok) ∧
      Replied o (Plugin.Connector.http answering).reach { kind := "disk-usage", name := "sda" } := by
  intro x o bodies
  have hrun : ((Program.examine answering o x none).run bodies).1.toOption.map Report.findings =
      some [{ kind := "disk-usage", name := "sda" },
        { kind := "disk-health", name := "sdb", failures := [{ text := "disk full" }] }] := by
    decide +kernel
  obtain ⟨report, left, hexamine, hfindings⟩ := exists_ok_of_map hrun
  obtain ⟨hstores, hprogram⟩ := text_and_verdict_part_over_empty_findings_only answering x o
  obtain ⟨s, provider, hmoves, rfl⟩ := hprogram none _ _ report hexamine
  obtain ⟨-, -, -, -, hagree, hreplied, -⟩ := hstores _ s hmoves provider false
  refine ⟨_, left, hexamine, hfindings, hagree.mpr (.inr ?_), hreplied _ ?_ rfl⟩
  · rw [hfindings]
    exact ⟨_, List.mem_cons_of_mem _ List.mem_cons_self, by decide⟩
  · rw [hfindings]
    exact List.mem_cons_self

end Run
end ClusterTriage
