import ClusterTriage.Proofs.Datum.Record
import ClusterTriage.Proofs.Json.Texts
import ClusterTriage.Report.Text

/-!
# Reports come back

A report is written for programs as JSON, and so are the findings in it, which plugins write as well. Empty
lists and absent texts are left out, names are those of the format, and a time is cut down to milliseconds.

> **Only the times lose anything** (`json_is_lossless`): every finding is read as it was written, and a
> report as it was but for what its times had below the millisecond.

Between the value and its text nothing is lost: no report lies deeper than the reader goes.
-/

namespace ClusterTriage

/-! ## 1. Findings -/

theorem Redaction.Rule.ofDatum?_toDatum (r : Redaction.Rule) : ofDatum? r.toDatum = some r := by
  have hrecord : Record.ofDatum? ["unmasked", "masked"] r.toDatum =
      some ⟨[("unmasked", .string r.unmasked), ("masked", .string r.masked)], false⟩ :=
    Record.ofDatum?_object (List.Sublist.refl _) (by decide)
  rw [ofDatum?, hrecord, Option.bind_eq_bind, Option.bind_some,
    required_of_lookup (d := .string r.unmasked) (by simp),
    required_of_lookup (d := .string r.masked) (by simp [List.lookup_cons])]
  rfl

namespace Failure

def members (f : Failure) : List (String × Datum) :=
  [("text", .string f.text)] ++ Datum.listMember "sensitive" (f.sensitive.map Redaction.Rule.toDatum) ++
    Datum.optionalMember "kubernetesDoc" f.documentation

theorem toDatum_eq (f : Failure) : f.toDatum = .object f.members := by
  rw [toDatum, members, Datum.listMember, List.isEmpty_map]

theorem members_names (f : Failure) :
    (f.members.map Prod.fst).Sublist ["text", "sensitive", "kubernetesDoc"] := by
  simp only [members, List.map_append]
  exact ((List.Sublist.refl ["text"]).append Datum.listMember_names).append Datum.optionalMember_names

theorem lookup_members (f : Failure) (name : String) : f.members.lookup name =
    ([("text", Datum.string f.text)].lookup name).or
      ((if name = "sensitive" ∧ f.sensitive.map Redaction.Rule.toDatum ≠ [] then
        some (.array (f.sensitive.map Redaction.Rule.toDatum)) else none).or
      (if name = "kubernetesDoc" then f.documentation.map Datum.string else none)) := by
  rw [members, List.lookup_append, List.lookup_append, Datum.lookup_listMember, Datum.lookup_optionalMember,
    Option.or_assoc]

theorem ofDatum?_toDatum (f : Failure) : ofDatum? f.toDatum = some f := by
  rw [toDatum_eq, ofDatum?, Record.ofDatum?_object f.members_names (by decide), Option.bind_eq_bind,
    Option.bind_some,
    required_of_lookup (d := .string f.text) (by simp [lookup_members]),
    defaulted_array Redaction.Rule.toDatum (l := f.sensitive) (fun r _ => r.ofDatum?_toDatum)
      (by simp [lookup_members, List.lookup_cons]),
    optionalDefaulted_string (o := f.documentation) (by simp [lookup_members, List.lookup_cons])]
  rfl

end Failure

namespace Finding

def members (f : Finding) : List (String × Datum) :=
  [("kind", .string f.kind), ("name", .string f.name), ("error", .array (f.failures.map Failure.toDatum))] ++
    Datum.optionalMember "details" f.details ++ Datum.optionalMember "parentObject" f.parent

theorem toDatum_eq (f : Finding) : f.toDatum = .object f.members := rfl

theorem members_names (f : Finding) :
    (f.members.map Prod.fst).Sublist ["kind", "name", "error", "details", "parentObject"] := by
  simp only [members, List.map_append]
  exact ((List.Sublist.refl ["kind", "name", "error"]).append Datum.optionalMember_names).append
    Datum.optionalMember_names

theorem lookup_members (f : Finding) (name : String) : f.members.lookup name =
    ([("kind", Datum.string f.kind), ("name", .string f.name),
      ("error", .array (f.failures.map Failure.toDatum))].lookup name).or
      ((if name = "details" then f.details.map Datum.string else none).or
      (if name = "parentObject" then f.parent.map Datum.string else none)) := by
  rw [members, List.lookup_append, List.lookup_append, Datum.lookup_optionalMember, Datum.lookup_optionalMember,
    Option.or_assoc]

theorem ofDatum?_toDatum (f : Finding) : ofDatum? f.toDatum = some f := by
  have herror : Datum.arrayOf? Failure.ofDatum? (.array (f.failures.map Failure.toDatum)) = some f.failures :=
    Datum.mapM_encode Failure.toDatum fun failure _ => failure.ofDatum?_toDatum
  rw [toDatum_eq, ofDatum?, Record.ofDatum?_object f.members_names (by decide), Option.bind_eq_bind,
    Option.bind_some,
    defaulted_of_lookup (d := .string f.kind) (by simp [lookup_members]),
    defaulted_of_lookup (d := .string f.name) (by simp [lookup_members, List.lookup_cons]),
    defaulted_of_lookup (d := .array (f.failures.map Failure.toDatum))
      (by simp [lookup_members, List.lookup_cons]),
    optionalDefaulted_string (o := f.details) (by simp [lookup_members, List.lookup_cons]),
    optionalDefaulted_string (o := f.parent) (by simp [lookup_members, List.lookup_cons]), herror]
  rfl

end Finding

/-! ## 2. Reports -/

namespace Timing

/-- A timing without what it has below the millisecond. -/
def cut (t : Timing) : Timing := { t with nanoseconds := t.nanoseconds / 1000000 * 1000000 }

/-- What is cut off is not written. -/
theorem toDatum_cut (t : Timing) : t.cut.toDatum = t.toDatum := by
  rw [toDatum, toDatum, cut, Nat.mul_div_cancel _ (by decide)]

theorem ofDatum?_toDatum (t : Timing) (h : t.nanoseconds < 2 ^ 64 * 1000000) :
    ofDatum? t.toDatum = some t.cut := by
  have hmillis : t.nanoseconds / 1000000 < 2 ^ 64 := Nat.div_lt_of_lt_mul (Nat.mul_comm _ _ ▸ h)
  have hword : t.nanoseconds / 1000000 % 0x10000000000000000 = t.nanoseconds / 1000000 := Nat.mod_eq_of_lt hmillis
  have hrecord : Record.ofDatum? ["analyzer", "duration"] t.toDatum =
      some ⟨[("analyzer", .string t.analyzer), ("duration", .int (t.nanoseconds / 1000000 : Nat))], false⟩ := by
    rw [toDatum, hword]
    exact Record.ofDatum?_object (List.Sublist.refl _) (by decide)
  rw [ofDatum?, hrecord, Option.bind_eq_bind, Option.bind_some,
    required_of_lookup (d := .string t.analyzer) (by simp),
    required_of_lookup (d := .int (t.nanoseconds / 1000000 : Nat)) (by simp [List.lookup_cons]),
    word?_natCast hmillis]
  rfl

end Timing

namespace Report

def fixed (r : Report) : List (String × Datum) :=
  [("provider", .string r.provider), ("errors", .array (r.errors.map .string)),
    ("status", .string r.verdict.name), ("problems", .int r.problems),
    ("results", .array (r.findings.map Finding.toDatum))]

def members (r : Report) : List (String × Datum) :=
  r.fixed ++ Datum.listMember "stats" (r.timings.map Timing.toDatum)

theorem toDatum_eq (r : Report) : r.toDatum = .object r.members := by
  rw [toDatum, members, Datum.listMember, List.isEmpty_map]
  rfl

theorem members_names (r : Report) : (r.members.map Prod.fst).Sublist
    ["provider", "errors", "status", "problems", "results", "stats"] := by
  rw [members, List.map_append]
  exact (List.Sublist.refl ["provider", "errors", "status", "problems", "results"]).append Datum.listMember_names

theorem lookup_members (r : Report) (name : String) : r.members.lookup name =
    (r.fixed.lookup name).or (if name = "stats" ∧ r.timings.map Timing.toDatum ≠ [] then
      some (.array (r.timings.map Timing.toDatum)) else none) := by
  rw [members, List.lookup_append, Datum.lookup_listMember]

theorem verdict?_name (v : Verdict) : verdict? (.string v.name) = some v := by cases v <;> rfl

/-- A report without what its timings have below the millisecond. -/
def cut (r : Report) : Report := { r with timings := r.timings.map Timing.cut }

theorem ofDatum?_toDatum (r : Report) (hproblems : r.problems < 2 ^ 64)
    (htimings : ∀ t ∈ r.timings, t.nanoseconds < 2 ^ 64 * 1000000) : ofDatum? r.toDatum = some r.cut := by
  have herrors : Datum.arrayOf? Datum.string? (.array (r.errors.map .string)) = some r.errors :=
    Datum.mapM_encode Datum.string fun _ _ => rfl
  have hfindings : Datum.arrayOf? Finding.ofDatum? (.array (r.findings.map Finding.toDatum)) = some r.findings :=
    Datum.mapM_encode Finding.toDatum fun f _ => f.ofDatum?_toDatum
  have htimes : r.timings.map Timing.toDatum = r.cut.timings.map Timing.toDatum := by
    rw [cut, List.map_map]
    exact List.map_congr_left fun t _ => t.toDatum_cut.symm
  have hcut : ∀ t ∈ r.cut.timings, Timing.ofDatum? t.toDatum = some t := by
    intro t ht
    obtain ⟨u, hu, rfl⟩ := List.mem_map.mp ht
    rw [u.toDatum_cut, u.ofDatum?_toDatum (htimings u hu)]
  rw [toDatum_eq, ofDatum?, Record.ofDatum?_object r.members_names (by decide), Option.bind_eq_bind,
    Option.bind_some,
    required_of_lookup (d := .string r.provider) (by simp [lookup_members, fixed]),
    required_of_lookup (d := .array (r.errors.map .string)) (by simp [lookup_members, fixed, List.lookup_cons]),
    required_of_lookup (d := .string r.verdict.name) (by simp [lookup_members, fixed, List.lookup_cons]),
    required_of_lookup (d := .int r.problems) (by simp [lookup_members, fixed, List.lookup_cons]),
    required_of_lookup (d := .array (r.findings.map Finding.toDatum))
      (by simp [lookup_members, fixed, List.lookup_cons]),
    defaulted_array Timing.toDatum (l := r.cut.timings) hcut
      (by simp [lookup_members, fixed, List.lookup_cons, htimes]),
    herrors, hfindings, verdict?_name, word?_natCast hproblems]
  rfl

end Report

/-! ## 3. Texts -/

namespace Json

variable {room : Nat}

theorem fits_listMember {name : String} {items : List Datum} (h : ∀ d ∈ items, Fits room d) :
    ∀ m ∈ Datum.listMember name items, Fits (room + 1) m.2 := by
  intro m hm
  unfold Datum.listMember at hm
  split at hm
  · cases hm
  · obtain rfl := List.mem_singleton.mp hm
    exact .array h

theorem fits_optionalMember {name : String} {o : Option String} :
    ∀ m ∈ Datum.optionalMember name o, Fits room m.2 := by
  intro m hm
  cases o with
  | none => cases hm
  | some s =>
    obtain rfl := List.mem_singleton.mp hm
    exact .scalar (.string s)

theorem fits_string (s : String) : Fits room (.string s) := .scalar (.string s)

theorem fits_natCast {n : Nat} (h : n < 2 ^ 64) : Fits room (.int n) :=
  .scalar (.int n (by omega) (by omega))

theorem fits_array {α : Type} {encode : α → Datum} {l : List α} (h : ∀ a, Fits room (encode a)) :
    Fits (room + 1) (.array (l.map encode)) :=
  .array (List.forall_mem_map.mpr fun a _ => h a)

end Json

open Json (Fits fits_listMember fits_optionalMember fits_string fits_natCast fits_array)

theorem Redaction.Rule.fits (r : Redaction.Rule) : Fits 1 r.toDatum :=
  .object (List.forall_mem_cons.mpr ⟨fits_string _, List.forall_mem_singleton.mpr (fits_string _)⟩)

theorem Failure.fits (f : Failure) : Fits 3 f.toDatum := by
  rw [toDatum_eq]
  refine .object (List.forall_mem_append.mpr ⟨List.forall_mem_append.mpr ⟨?_, ?_⟩, fits_optionalMember⟩)
  · exact List.forall_mem_singleton.mpr (fits_string _)
  · exact fits_listMember (List.forall_mem_map.mpr fun r _ => r.fits)

theorem Finding.fits (f : Finding) : Fits 5 f.toDatum := by
  refine .object (List.forall_mem_append.mpr ⟨List.forall_mem_append.mpr ⟨?_, fits_optionalMember⟩,
    fits_optionalMember⟩)
  simp only [List.forall_mem_cons, List.not_mem_nil, false_imp_iff, implies_true, and_true]
  exact ⟨fits_string _, fits_string _, fits_array Failure.fits⟩

theorem Timing.fits {room : Nat} (t : Timing) : Fits (room + 1) t.toDatum := by
  refine .object (List.forall_mem_cons.mpr ⟨fits_string _, List.forall_mem_singleton.mpr ?_⟩)
  exact fits_natCast (Nat.mod_lt _ (by decide))

/-- No report lies deeper than the reader goes. -/
theorem Report.fits (r : Report) (h : r.problems < 2 ^ 64) : Fits 7 r.toDatum := by
  rw [toDatum_eq]
  refine .object (List.forall_mem_append.mpr ⟨?_, fits_listMember (List.forall_mem_map.mpr fun t _ => t.fits)⟩)
  simp only [fixed, List.forall_mem_cons, List.not_mem_nil, false_imp_iff, implies_true, and_true]
  exact ⟨fits_string _, fits_array fits_string, fits_string _, fits_natCast h, fits_array Finding.fits⟩

/-- **Only the times of a report lose anything.** Every finding is read from its data as it was written, and
so it is from either layout of its text. Every report whose numbers fit the words that they are written as
is read as it was, from its data and from its text, but for what its times had below the millisecond. -/
theorem json_is_lossless :
    (∀ f : Finding, Finding.ofDatum? f.toDatum = some f ∧
      (Json.parse (Json.compact f.toDatum)).bind Finding.ofDatum? = some f ∧
      (Json.parse (Json.pretty f.toDatum)).bind Finding.ofDatum? = some f) ∧
    ∀ r : Report, r.problems < 2 ^ 64 → (∀ t ∈ r.timings, t.nanoseconds < 2 ^ 64 * 1000000) →
      Report.ofDatum? r.toDatum = some r.cut ∧ (Json.parse r.toJson).bind Report.ofDatum? = some r.cut := by
  refine ⟨fun f => ⟨f.ofDatum?_toDatum, ?_, ?_⟩, fun r hproblems htimings => ?_⟩
  · rw [Json.parse_compact f.fits (by decide), Option.bind_some, f.ofDatum?_toDatum]
  · rw [Json.parse_pretty f.fits (by decide), Option.bind_some, f.ofDatum?_toDatum]
  · have hread := r.ofDatum?_toDatum hproblems htimings
    refine ⟨hread, ?_⟩
    rw [Report.toJson, Json.parse_pretty (r.fits hproblems) (by decide), Option.bind_some, hread]

/-- A failure with a break and quotes in it comes back, and a time of 1.234567 ms as one millisecond. -/
theorem a_report_comes_back :
    let failure : Failure := { text := "first\n\"second\"", sensitive := [⟨"shop", "Xk91"⟩] }
    let r : Report :=
      { provider := "", errors := ["[Node] gone"], verdict := .problemDetected, problems := 1
        findings := [{ kind := "Pod", name := "shop/web-1", failures := [failure] }]
        timings := [⟨"Pod", 1234567⟩] }
    (Json.parse r.toJson).bind Report.ofDatum? = some { r with timings := [⟨"Pod", 1000000⟩] } := by
  intro failure r
  exact (json_is_lossless.2 r (by decide) (by decide)).2

end ClusterTriage
