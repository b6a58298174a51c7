import ClusterTriage.Proofs.Datum.Record
import ClusterTriage.Proofs.NameMap
import ClusterTriage.Proofs.Toml.Documents
import ClusterTriage.Settings.File

/-!
# Settings come back

Members that say nothing are left out when settings are written, and a default stands in for them
when they are read. Both sides have to leave out and put in the same.

> **What is written for settings is read as those settings** (`Settings.parse?_render`), if no
> provider has a temperature, and the numbers and names are such as can be read at all.

The second condition is met by all settings that were read themselves (`Settings.sound_of_parse?`),
and by the defaults.
-/

namespace ClusterTriage

/-! ## 1. Settings that can be read -/

/-- An integer of 64 bits. -/
def IsInt64 (i : Int) : Prop := -0x8000000000000000 ≤ i ∧ i ≤ 0x7FFFFFFFFFFFFFFF

instance (i : Int) : Decidable (IsInt64 i) := inferInstanceAs (Decidable (_ ∧ _))

theorem int64?_eq_some {d : Datum} {i : Int} :
    d.int64? = some i ↔ d = .int i ∧ IsInt64 i := by
  unfold Datum.int64? Datum.intIn? IsInt64
  cases d with
  | int n =>
    simp only [Option.ite_none_right_eq_some, Option.some.injEq, Datum.int.injEq]
    constructor
    · rintro ⟨h, rfl⟩
      exact ⟨rfl, h⟩
    · rintro ⟨rfl, h⟩
      exact ⟨h, rfl⟩
  | _ => simp

/-- Settings within the bounds of what can be read. -/
structure Settings.Sound (s : Settings) : Prop where
  maxConcurrency : IsInt64 s.analysis.maxConcurrency
  pluginConcurrency : IsInt64 s.analysis.pluginConcurrency
  ports : ∀ p ∈ s.analysis.plugins, p.port < 2 ^ 16
  prompts : s.explanation.prompts.Sorted

/-- Settings in which no provider has a temperature. -/
def Settings.Untempered (s : Settings) : Prop :=
  ∀ p ∈ s.explanation.providers, p.temperature = none

theorem Settings.sound_default : Settings.Sound {} where
  maxConcurrency := by decide
  pluginConcurrency := by decide
  ports := nofun
  prompts := NameMap.sorted_empty

/-! ## 2. Writing and reading -/

namespace ClusterSettings

def members (s : ClusterSettings) : List (String × Datum) :=
  Datum.optionalMember "context" s.context ++ Datum.optionalMember "kubeconfig" s.kubeconfig

theorem members_names (s : ClusterSettings) :
    (s.members.map Prod.fst).Sublist ["context", "kubeconfig"] := by
  rw [members, List.map_append]
  exact Datum.optionalMember_names.append Datum.optionalMember_names

theorem ofDatum?_toDatum (s : ClusterSettings) : ofDatum? s.toDatum = some s := by
  have hrecord : Record.ofDatum? ["context", "kubeconfig"] s.toDatum = some ⟨s.members, false⟩ :=
    Record.ofDatum?_object s.members_names (by decide)
  have hlookup : ∀ name, s.members.lookup name =
      (if name = "context" then s.context.map Datum.string else none).or
      (if name = "kubeconfig" then s.kubeconfig.map Datum.string else none) := fun name => by
    rw [members, List.lookup_append, Datum.lookup_optionalMember, Datum.lookup_optionalMember]
  rw [ofDatum?, hrecord, Option.bind_eq_bind, Option.bind_some,
    optional_string (o := s.context) rfl (by simp [hlookup]),
    optional_string (o := s.kubeconfig) rfl (by simp [hlookup])]
  rfl

end ClusterSettings

namespace Plugin

variable {p : Plugin}

def connection (p : Plugin) : List (String × Datum) := [("url", .string p.url), ("port", .int p.port)]

def members (p : Plugin) : List (String × Datum) :=
  [("name", .string p.name), ("connection", .object p.connection)]

theorem ofDatum?_toDatum (h : p.port < 2 ^ 16) : ofDatum? p.toDatum = some p := by
  have hport : Datum.word? 16 (.int p.port) = some p.port := word?_natCast h
  have hconnection : Record.ofDatum? ["url", "port"] (.object p.connection) =
      some ⟨p.connection, false⟩ :=
    Record.ofDatum?_object (List.Sublist.refl _) (by decide)
  have hrecord : Record.ofDatum? ["name", "connection"] p.toDatum = some ⟨p.members, false⟩ :=
    Record.ofDatum?_object (List.Sublist.refl _) (by decide)
  have hat : p.members.lookup "connection" = some (.object p.connection) := by
    simp [members, List.lookup_cons]
  rw [ofDatum?, hrecord, Option.bind_eq_bind, Option.bind_some]
  simp only [Record.required, hat, Option.bind_eq_bind, Option.bind_some, hconnection]
  simp [members, connection, List.lookup_cons, Datum.string?, hport]

end Plugin

namespace Provider

variable {p : Provider}

def members (p : Provider) : List (String × Datum) :=
  [("name", .string p.name)] ++ Datum.optionalMember "model" p.model ++
    Datum.optionalMember "base_url" p.baseUrl ++ Datum.optionalMember "api_key" p.apiKey

theorem members_names (p : Provider) :
    (p.members.map Prod.fst).Sublist ["name", "model", "base_url", "api_key"] := by
  simp only [members, List.map_append]
  exact ((List.Sublist.refl ["name"]).append Datum.optionalMember_names
    |>.append Datum.optionalMember_names).append Datum.optionalMember_names

theorem toDatum_eq (h : p.temperature = none) : p.toDatum = .object p.members := by
  rw [toDatum, h, members, List.append_nil]

theorem ofDatum?_toDatum (h : p.temperature = none) : ofDatum? p.toDatum = some p := by
  have hnames : (p.members.map Prod.fst).Sublist
      ["name", "model", "base_url", "api_key", "temperature"] :=
    p.members_names.trans (by decide)
  have hlookup : ∀ field, p.members.lookup field =
      ([("name", Datum.string p.name)].lookup field).or
      ((if field = "model" then p.model.map Datum.string else none).or
      ((if field = "base_url" then p.baseUrl.map Datum.string else none).or
      (if field = "api_key" then p.apiKey.map Datum.string else none))) := fun field => by
    simp only [members, List.lookup_append, Datum.lookup_optionalMember, Option.or_assoc]
  have hname : (⟨p.members, false⟩ : Record).required "name" Datum.string? = some p.name := by
    simp [Record.required, hlookup, Datum.string?]
  have htemperature : p.members.lookup "temperature" = none := by simp [hlookup, List.lookup_cons]
  rw [toDatum_eq h, ofDatum?, Record.ofDatum?_object hnames (by decide), Option.bind_eq_bind,
    Option.bind_some, hname,
    optional_string (o := p.model) rfl (by simp [hlookup, List.lookup_cons]),
    optional_string (o := p.baseUrl) rfl (by simp [hlookup, List.lookup_cons]),
    optional_string (o := p.apiKey) rfl (by simp [hlookup, List.lookup_cons]),
    Record.optional, htemperature]
  obtain ⟨name, model, baseUrl, apiKey, temperature⟩ := p
  obtain rfl := h
  rfl

end Provider

namespace AnalysisSettings

variable {s : AnalysisSettings}

def plain (s : AnalysisSettings) : List (String × Datum) :=
  Datum.listMember "active_filters" (s.activeFilters.map .string) ++
    [("max_concurrency", .int s.maxConcurrency), ("plugin_concurrency", .int s.pluginConcurrency),
      ("language", .string s.language)]

def members (s : AnalysisSettings) : List (String × Datum) :=
  s.plain ++ Datum.listMember "custom_analyzers" (s.plugins.map Plugin.toDatum)

theorem members_names (s : AnalysisSettings) : (s.members.map Prod.fst).Sublist
    ["active_filters", "max_concurrency", "plugin_concurrency", "language", "custom_analyzers"] := by
  simp only [members, plain, List.map_append]
  exact (Datum.listMember_names.append (List.Sublist.refl _)).append Datum.listMember_names

theorem ofDatum?_toDatum (hmax : IsInt64 s.maxConcurrency) (hplugin : IsInt64 s.pluginConcurrency)
    (hports : ∀ p ∈ s.plugins, p.port < 2 ^ 16) : ofDatum? s.toDatum = some s := by
  have hrecord : Record.ofDatum? ["active_filters", "max_concurrency", "plugin_concurrency",
      "language", "custom_analyzers"] s.toDatum = some ⟨s.members, false⟩ :=
    Record.ofDatum?_object s.members_names (by decide)
  have hlookup : ∀ name, s.members.lookup name =
      (if name = "active_filters" ∧ s.activeFilters.map Datum.string ≠ [] then
        some (.array (s.activeFilters.map .string)) else none).or
      ([("max_concurrency", Datum.int s.maxConcurrency),
        ("plugin_concurrency", .int s.pluginConcurrency),
        ("language", .string s.language)].lookup name |>.or
      (if name = "custom_analyzers" ∧ s.plugins.map Plugin.toDatum ≠ [] then
        some (.array (s.plugins.map Plugin.toDatum)) else none)) := fun name => by
    rw [members, plain, List.lookup_append, List.lookup_append, Datum.lookup_listMember,
      Datum.lookup_listMember, Option.or_assoc]
  rw [ofDatum?, hrecord, Option.bind_eq_bind, Option.bind_some,
    defaulted_array .string (l := s.activeFilters) (fun _ _ => rfl)
      (by simp [hlookup, List.lookup_cons]),
    defaulted_array Plugin.toDatum (l := s.plugins)
      (fun p hp => Plugin.ofDatum?_toDatum (hports p hp)) (by simp [hlookup, List.lookup_cons]),
    defaulted_of_lookup (d := .int s.maxConcurrency) (by simp [hlookup]),
    defaulted_of_lookup (d := .int s.pluginConcurrency) (by simp [hlookup, List.lookup_cons]),
    defaulted_of_lookup (d := .string s.language) (by simp [hlookup, List.lookup_cons]),
    int64?_eq_some.mpr ⟨rfl, hmax⟩, int64?_eq_some.mpr ⟨rfl, hplugin⟩]
  rfl

end AnalysisSettings

namespace ExplanationSettings

variable {s : ExplanationSettings}

def prompted (s : ExplanationSettings) : List (String × Datum) :=
  if s.prompts.isEmpty then []
  else [("prompts", .object (s.prompts.entries.map fun (kind, t) => (kind, .string t)))]

def members (s : ExplanationSettings) : List (String × Datum) :=
  Datum.optionalMember "default_provider" s.defaultProvider ++
    (Datum.listMember "providers" (s.providers.map Provider.toDatum) ++ s.prompted)

theorem toDatum_eq : s.toDatum = .object s.members := by
  rw [toDatum, List.append_assoc]
  rfl

theorem members_names (s : ExplanationSettings) :
    (s.members.map Prod.fst).Sublist ["default_provider", "providers", "prompts"] := by
  have hprompted : (s.prompted.map Prod.fst).Sublist ["prompts"] := by
    rw [prompted]
    split <;> simp
  simp only [members, List.map_append]
  exact Datum.optionalMember_names.append (Datum.listMember_names.append hprompted)

theorem ofDatum?_toDatum (huntempered : ∀ p ∈ s.providers, p.temperature = none)
    (hprompts : s.prompts.Sorted) : ofDatum? s.toDatum = some s := by
  have hlookup : ∀ name, s.members.lookup name =
      (if name = "default_provider" then s.defaultProvider.map Datum.string else none).or
      ((if name = "providers" ∧ s.providers.map Provider.toDatum ≠ [] then
        some (.array (s.providers.map Provider.toDatum)) else none).or (s.prompted.lookup name)) :=
    fun name => by
      rw [members, List.lookup_append, List.lookup_append, Datum.lookup_listMember,
        Datum.lookup_optionalMember]
  have hother : ∀ name, name ≠ "prompts" → s.prompted.lookup name = none := fun name hname => by
    rw [prompted]
    split <;> simp [List.lookup_cons, beq_false_of_ne hname]
  have hread : (⟨s.members, false⟩ : Record).defaulted "prompts" [] (Datum.mapOf? Datum.string?) =
      some s.prompts.entries := by
    have hat : s.members.lookup "prompts" = s.prompted.lookup "prompts" := by simp [hlookup]
    rw [Record.defaulted, hat]
    cases hempty : s.prompts.isEmpty with
    | true =>
      have hentries : s.prompts.entries = [] := List.isEmpty_iff.mp hempty
      rw [prompted, if_pos hempty, hentries]
      rfl
    | false =>
      simp only [prompted, hempty, Bool.false_eq_true, if_false, List.lookup_cons, beq_self_eq_true]
      exact Datum.mapM_encode (fun e : String × String => (e.1, Datum.string e.2)) fun _ _ => rfl
  rw [toDatum_eq, ofDatum?, Record.ofDatum?_object s.members_names (by decide), Option.bind_eq_bind,
    Option.bind_some, hread,
    optional_string (o := s.defaultProvider) rfl (by simp [hlookup, hother]),
    defaulted_array Provider.toDatum (l := s.providers)
      (fun p hp => Provider.ofDatum?_toDatum (huntempered p hp)) (by simp [hlookup, hother])]
  simp only [Option.bind_eq_bind, Option.bind_some, hprompts.ofList_entries]
  rfl

end ExplanationSettings

namespace CacheSettings

variable {s : CacheSettings}

def members (s : CacheSettings) : List (String × Datum) :=
  ("kind", .string s.kind.name) :: Datum.optionalMember "directory" s.directory

theorem members_names (s : CacheSettings) :
    (s.members.map Prod.fst).Sublist ["kind", "directory"] :=
  Datum.optionalMember_names.cons_cons "kind"

theorem ofDatum?_toDatum (s : CacheSettings) (holdsNothing : Datum → Bool) :
    ofDatum? holdsNothing s.toDatum = some s := by
  have hrecord : Record.ofDatum? ["kind", "directory"] s.toDatum = some ⟨s.members, false⟩ :=
    Record.ofDatum?_object s.members_names (by decide)
  have hkind : (Datum.string s.kind.name).caseName? holdsNothing >>= CacheKind.ofName? =
      some s.kind := by
    cases s.kind <;> rfl
  rw [ofDatum?, hrecord, Option.bind_eq_bind, Option.bind_some,
    defaulted_of_lookup (d := .string s.kind.name) (by simp [members]), hkind,
    optional_string (o := s.directory) rfl
      (by simp [members, List.lookup_cons, Datum.lookup_optionalMember])]
  rfl

end CacheSettings

namespace Settings

variable {s : Settings}

def members (s : Settings) : List (String × Datum) :=
  [("kubernetes", s.cluster.toDatum), ("analysis", s.analysis.toDatum), ("ai", s.explanation.toDatum),
    ("cache", s.cache.toDatum)]

theorem ofDatum?_toDatum (hsound : s.Sound) (huntempered : s.Untempered)
    (holdsNothing : Datum → Bool) : ofDatum? holdsNothing s.toDatum = some s := by
  have hrecord : Record.ofDatum? ["kubernetes", "analysis", "ai", "cache"] s.toDatum =
      some ⟨s.members, false⟩ :=
    Record.ofDatum?_object (List.Sublist.refl _) (by decide)
  rw [ofDatum?, hrecord, Option.bind_eq_bind, Option.bind_some,
    defaulted_of_lookup (d := s.cluster.toDatum) (by simp [members]),
    defaulted_of_lookup (d := s.analysis.toDatum) (by simp [members, List.lookup_cons]),
    defaulted_of_lookup (d := s.explanation.toDatum) (by simp [members, List.lookup_cons]),
    defaulted_of_lookup (d := s.cache.toDatum) (by simp [members, List.lookup_cons]),
    ClusterSettings.ofDatum?_toDatum, AnalysisSettings.ofDatum?_toDatum hsound.maxConcurrency
      hsound.pluginConcurrency hsound.ports,
    ExplanationSettings.ofDatum?_toDatum huntempered hsound.prompts,
    CacheSettings.ofDatum?_toDatum]
  rfl

end Settings

/-! ## 3. Settings as tables -/

open Toml

theorem tabular_of_plain {members : List (String × Datum)} (h : ∀ e ∈ members, Plain e.2)
    (hnodup : (members.map Prod.fst).Nodup) : Tabular (.object members) := by
  have htable := @Tabular.table members [] h nofun (by simpa using hnodup)
  rwa [List.append_nil] at htable

theorem plain_optionalMember {name : String} {o : Option String} :
    ∀ e ∈ Datum.optionalMember name o, Plain e.2 := by
  cases o with
  | none => nofun
  | some s =>
    intro e he
    obtain rfl := List.mem_singleton.mp he
    exact .scalar (.string s)

theorem scalar_int {i : Int} (h : IsInt64 i) : Scalar (.int i) :=
  .int h.1 (Int.lt_of_le_of_lt h.2 (by decide))

theorem tabular_listMember {name : String} {items : List Datum}
    (htable : ∀ d ∈ items, isTable d = true) (h : ∀ d ∈ items, Tabular d) : ∀ e ∈ Datum.listMember name items, Tabular e.2 := by
  cases items with
  | nil => nofun
  | cons d items =>
    intro e he
    obtain rfl := List.mem_singleton.mp he
    exact .tables (List.cons_ne_nil _ _) htable h

theorem ClusterSettings.tabular (s : ClusterSettings) : Tabular s.toDatum := by
  have hplain : ∀ e ∈ s.members, Plain e.2 := fun e he =>
    (List.mem_append.mp he).elim (plain_optionalMember e) (plain_optionalMember e)
  exact tabular_of_plain hplain (s.members_names.nodup (by decide))

theorem Plugin.tabular {p : Plugin} (h : p.port < 2 ^ 16) : Tabular p.toDatum := by
  have hport : Scalar (.int p.port) :=
    .int (by omega) (by omega)
  have hconnection : Tabular (.object p.connection) := by
    refine tabular_of_plain (fun e he => ?_) (by simp [connection])
    rcases List.mem_cons.mp he with rfl | he
    · exact .scalar (.string p.url)
    · obtain rfl := List.mem_singleton.mp he
      exact .scalar hport
  refine @Tabular.table [("name", .string p.name)] [("connection", .object p.connection)]
    (fun e he => ?_) (fun e he => ?_) (by simp)
  · obtain rfl := List.mem_singleton.mp he
    exact .scalar (.string p.name)
  · obtain rfl := List.mem_singleton.mp he
    exact hconnection

theorem Provider.tabular {p : Provider} (h : p.temperature = none) : Tabular p.toDatum := by
  have hplain : ∀ e ∈ p.members, Plain e.2 := fun e he => by
    simp only [members, List.mem_append, List.mem_singleton] at he
    rcases he with ((rfl | he) | he) | he
    · exact .scalar (.string p.name)
    · exact plain_optionalMember e he
    · exact plain_optionalMember e he
    · exact plain_optionalMember e he
  rw [toDatum_eq h]
  exact tabular_of_plain hplain (p.members_names.nodup (by decide))

theorem AnalysisSettings.tabular {s : AnalysisSettings} (hmax : IsInt64 s.maxConcurrency)
    (hplugin : IsInt64 s.pluginConcurrency) (hports : ∀ p ∈ s.plugins, p.port < 2 ^ 16) :
    Tabular s.toDatum := by
  refine @Tabular.table s.plain (Datum.listMember "custom_analyzers" (s.plugins.map Plugin.toDatum))
    (fun e he => ?_) (tabular_listMember (fun d hd => ?_) (fun d hd => ?_))
    (s.members_names.nodup (by decide))
  · rcases List.mem_append.mp he with he | he
    · cases hfilters : s.activeFilters with
      | nil =>
        rw [hfilters] at he
        cases he
      | cons f filters =>
        rw [hfilters] at he
        obtain rfl := List.mem_singleton.mp he
        refine .array fun d hd => ?_
        obtain ⟨s, -, rfl⟩ := List.mem_map.mp hd
        exact .string s
    · simp only [List.mem_cons, List.not_mem_nil, or_false] at he
      rcases he with rfl | rfl | rfl
      · exact .scalar (scalar_int hmax)
      · exact .scalar (scalar_int hplugin)
      · exact .scalar (.string s.language)
  · obtain ⟨p, -, rfl⟩ := List.mem_map.mp hd
    rfl
  · obtain ⟨p, hp, rfl⟩ := List.mem_map.mp hd
    exact Plugin.tabular (hports p hp)

theorem ExplanationSettings.tabular {s : ExplanationSettings}
    (huntempered : ∀ p ∈ s.providers, p.temperature = none) (hprompts : s.prompts.Sorted) :
    Tabular s.toDatum := by
  have hprompted : ∀ e ∈ s.prompted, Tabular e.2 := fun e he => by
    rw [prompted] at he
    split at he
    · cases he
    · obtain rfl := List.mem_singleton.mp he
      refine tabular_of_plain (fun e he => ?_) ?_
      · obtain ⟨e, -, rfl⟩ := List.mem_map.mp he
        exact .scalar (.string e.2)
      · rw [List.map_map]
        exact hprompts.nodup
  rw [toDatum_eq]
  refine .table plain_optionalMember (fun e he => ?_) (s.members_names.nodup (by decide))
  rcases List.mem_append.mp he with he | he
  · refine tabular_listMember (fun d hd => ?_) (fun d hd => ?_) e he
    · obtain ⟨p, hp, rfl⟩ := List.mem_map.mp hd
      rfl
    · obtain ⟨p, hp, rfl⟩ := List.mem_map.mp hd
      exact Provider.tabular (huntempered p hp)
  · exact hprompted e he

theorem CacheSettings.tabular (s : CacheSettings) : Tabular s.toDatum := by
  refine tabular_of_plain (fun e he => ?_) (s.members_names.nodup (by decide))
  rcases List.mem_cons.mp he with rfl | he
  · exact .scalar (.string s.kind.name)
  · exact plain_optionalMember e he

namespace Settings

variable {s : Settings}

theorem tabular (hsound : s.Sound) (huntempered : s.Untempered) : Tabular s.toDatum := by
  refine @Tabular.table [] s.members nofun (fun e he => ?_) (by simp [members])
  simp only [members, List.mem_cons, List.not_mem_nil, or_false] at he
  rcases he with rfl | rfl | rfl | rfl
  · exact s.cluster.tabular
  · exact AnalysisSettings.tabular hsound.maxConcurrency hsound.pluginConcurrency hsound.ports
  · exact ExplanationSettings.tabular huntempered hsound.prompts
  · exact s.cache.tabular

/-- **What is written for settings is read as those settings.** -/
theorem parse?_render (hsound : s.Sound) (huntempered : s.Untempered) : parse? s.render = some s := by
  rw [parse?, render, toDatum, parse_pretty (tabular hsound huntempered), Option.bind_eq_bind,
    Option.bind_some]
  exact ofDatum?_toDatum hsound huntempered Datum.isEmpty

end Settings

/-! ## 4. Settings that were read -/

theorem of_defaulted {α : Type} {r : Record} {name : String} {a b : α} {decode : Datum → Option α}
    (h : r.defaulted name a decode = some b) : b = a ∨ ∃ d, decode d = some b := by
  unfold Record.defaulted at h
  split at h
  · exact .inr ⟨_, h⟩
  · exact .inl (Option.some.inj h).symm

theorem Datum.mem_of_arrayOf? {α : Type} {decode : Datum → Option α} {d : Datum} {l : List α}
    (h : arrayOf? decode d = some l) : ∀ a ∈ l, ∃ d, decode d = some a := by
  cases d with
  | array items =>
    change items.mapM decode = some l at h
    induction items generalizing l with
    | nil =>
      obtain rfl := Option.some.inj h
      nofun
    | cons d items ih =>
      rw [List.mapM_cons] at h
      obtain ⟨b, hb, h⟩ := Option.bind_eq_some_iff.mp h
      obtain ⟨bs, hbs, h⟩ := Option.bind_eq_some_iff.mp h
      obtain rfl := Option.some.inj h
      intro a ha
      rcases List.mem_cons.mp ha with rfl | ha
      · exact ⟨d, hb⟩
      · exact ih hbs a ha
  | _ => cases h

theorem Plugin.port_of_ofDatum? {d : Datum} {p : Plugin} (h : Plugin.ofDatum? d = some p) :
    p.port < 2 ^ 16 := by
  obtain ⟨r, -, h⟩ := Option.bind_eq_some_iff.mp h
  obtain ⟨name, -, h⟩ := Option.bind_eq_some_iff.mp h
  obtain ⟨c, -, h⟩ := Option.bind_eq_some_iff.mp h
  obtain ⟨url, -, h⟩ := Option.bind_eq_some_iff.mp h
  obtain ⟨port, hport, h⟩ := Option.bind_eq_some_iff.mp h
  obtain rfl := Option.some.inj h
  obtain ⟨d, -, hword⟩ := Option.bind_eq_some_iff.mp hport
  obtain ⟨n, hn, rfl⟩ := Option.map_eq_some_iff.mp hword
  cases d <;> simp only [Datum.intIn?, Option.ite_none_right_eq_some, reduceCtorEq] at hn
  obtain ⟨hrange, hn⟩ := hn
  obtain rfl := Option.some.inj hn
  have hmax : Int.ofNat (Nat.pow 2 16) - 1 = 65535 := rfl
  rw [hmax] at hrange
  show Int.toNat _ < 2 ^ 16
  omega

theorem AnalysisSettings.sound_of_ofDatum? {d : Datum} {s : AnalysisSettings}
    (h : AnalysisSettings.ofDatum? d = some s) :
    IsInt64 s.maxConcurrency ∧ IsInt64 s.pluginConcurrency ∧ ∀ p ∈ s.plugins, p.port < 2 ^ 16 := by
  have hint : ∀ {r : Record} {name : String} {i : Int},
      r.defaulted name (defaultConcurrency : Int) Datum.int64? = some i → IsInt64 i := fun h => by
    rcases of_defaulted h with rfl | ⟨d, hd⟩
    · decide
    · exact (int64?_eq_some.mp hd).2
  obtain ⟨r, -, h⟩ := Option.bind_eq_some_iff.mp h
  obtain ⟨filters, -, h⟩ := Option.bind_eq_some_iff.mp h
  obtain ⟨maxConcurrency, hmax, h⟩ := Option.bind_eq_some_iff.mp h
  obtain ⟨pluginConcurrency, hplugin, h⟩ := Option.bind_eq_some_iff.mp h
  obtain ⟨language, -, h⟩ := Option.bind_eq_some_iff.mp h
  obtain ⟨plugins, hplugins, h⟩ := Option.bind_eq_some_iff.mp h
  obtain rfl := Option.some.inj h
  refine ⟨hint hmax, hint hplugin, fun p hp => ?_⟩
  rcases of_defaulted hplugins with rfl | ⟨d, hd⟩
  · cases hp
  · obtain ⟨d, hd⟩ := Datum.mem_of_arrayOf? hd p hp
    exact Plugin.port_of_ofDatum? hd

theorem ExplanationSettings.sorted_of_ofDatum? {d : Datum} {s : ExplanationSettings}
    (h : ExplanationSettings.ofDatum? d = some s) : s.prompts.Sorted := by
  obtain ⟨r, -, h⟩ := Option.bind_eq_some_iff.mp h
  obtain ⟨provider, -, h⟩ := Option.bind_eq_some_iff.mp h
  obtain ⟨providers, -, h⟩ := Option.bind_eq_some_iff.mp h
  obtain ⟨prompts, -, h⟩ := Option.bind_eq_some_iff.mp h
  obtain rfl := Option.some.inj h
  exact NameMap.sorted_ofList prompts

/-- **Settings that were read are such as can be read.** -/
theorem Settings.sound_of_ofDatum? {holdsNothing : Datum → Bool} {d : Datum} {s : Settings}
    (h : Settings.ofDatum? holdsNothing d = some s) : s.Sound := by
  obtain ⟨r, -, h⟩ := Option.bind_eq_some_iff.mp h
  obtain ⟨cluster, -, h⟩ := Option.bind_eq_some_iff.mp h
  obtain ⟨analysis, hanalysis, h⟩ := Option.bind_eq_some_iff.mp h
  obtain ⟨explanation, hexplanation, h⟩ := Option.bind_eq_some_iff.mp h
  obtain ⟨cache, -, h⟩ := Option.bind_eq_some_iff.mp h
  obtain rfl := Option.some.inj h
  have hdefault := Settings.sound_default
  have hbounds : IsInt64 analysis.maxConcurrency ∧ IsInt64 analysis.pluginConcurrency ∧
      ∀ p ∈ analysis.plugins, p.port < 2 ^ 16 := by
    rcases of_defaulted hanalysis with rfl | ⟨d, hd⟩
    · exact ⟨hdefault.maxConcurrency, hdefault.pluginConcurrency, hdefault.ports⟩
    · exact AnalysisSettings.sound_of_ofDatum? hd
  have hprompts : explanation.prompts.Sorted := by
    rcases of_defaulted hexplanation with rfl | ⟨d, hd⟩
    · exact hdefault.prompts
    · exact ExplanationSettings.sorted_of_ofDatum? hd
  exact ⟨hbounds.1, hbounds.2.1, hbounds.2.2, hprompts⟩

theorem Settings.sound_of_parse? {text : String} {s : Settings} (h : parse? text = some s) :
    s.Sound := by
  obtain ⟨d, -, h⟩ := Option.bind_eq_some_iff.mp h
  exact sound_of_ofDatum? h

end ClusterTriage
