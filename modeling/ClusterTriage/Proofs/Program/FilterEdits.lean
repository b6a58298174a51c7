import ClusterTriage.Program.Run
import ClusterTriage.Proofs.Selection.Edits
import ClusterTriage.Proofs.Settings.InEffect

/-!
# Edited filters are there the next time

The file in effect is looked for when the program starts and written when filters were edited. The
next start looks for it again, in a tree in which one file more may stand.

> **An edit that succeeds writes one file, and whoever starts the program again finds that file in
> effect, and in it the settings with the edited filters** (`filter_edits_persist`).

An edit that is refused leaves the tree as it was.
-/

namespace ClusterTriage
namespace Program

open CommandLine (FilterCommand Invocation)
open Settings.File (global)

variable {w : Surroundings OnTree} {i : Invocation} {c : FilterCommand} {colour : Bool}
  {home file : Option String} {s : Settings} {t t' : FileTree} {mc mc' : MemoryCache} {said : String}

/-! ## 1. The run of an edit -/

theorem run_save (s : Settings) (path : String) (t : FileTree) (mc : MemoryCache) :
    ((Settings.File.save s path : OnTree _).run t).run mc =
      match t.writeBytes path (Text.Utf8.encode s.render) with
      | .ok t' => ((.ok (), t'), mc)
      | .error e => ((.error (.write path e), t), mc) := by
  have hmap : ((Settings.File.save s path : OnTree _).run t).run mc =
      let r := ((MonadFiles.writeBytes path (Text.Utf8.encode s.render) : OnTree _).run t).run mc
      ((r.1.1.mapError (.write path), r.1.2), r.2) := rfl
  rw [hmap, FileTree.run_writeBytes]
  cases t.writeBytes path (Text.Utf8.encode s.render) with
  | ok t' => rfl
  | error e => rfl

theorem writeBytes_of_persist
    (h : ((persist s file home : OnTree _).run t).run mc = ((.ok (), t'), mc')) :
    ∃ path, file.or (global home) = some path ∧
      t.writeBytes path (Text.Utf8.encode s.render) = .ok t' := by
  have hsave : ∀ {path}, ((Settings.File.save s path : OnTree _).run t).run mc = ((.ok (), t'), mc') →
      t.writeBytes path (Text.Utf8.encode s.render) = .ok t' := fun {path} h => by
    rw [run_save] at h
    cases hwrite : t.writeBytes path (Text.Utf8.encode s.render) with
    | error e =>
      rw [hwrite] at h
      cases h
    | ok t'' =>
      rw [hwrite] at h
      cases h
      rfl
  cases file with
  | some path => exact ⟨path, rfl, hsave h⟩
  | none =>
    rw [persist, Settings.File.saveGlobal] at h
    cases hhome : global home with
    | none =>
      rw [hhome] at h
      cases h
    | some path =>
      rw [hhome] at h
      exact ⟨path, rfl, hsave h⟩

/-- The filters in effect after an edit of those in effect before: an addition puts those names behind them
that are not there, each once, and a removal takes names away. -/
def editedFilters (before : List String) : FilterCommand → List String
  | .list => before
  | .add names => before ++ (names.filter (· ∉ before)).eraseDups
  | .remove names => before.filter (· ∉ names)

/-- An edit leaves all settings but the filters. -/
theorem edit_eq_ok {edited : Option Settings} (hc : c ≠ .list)
    (h : edit colour s c = .ok (edited, said)) :
    edited = some { s with analysis := { s.analysis with
      activeFilters := editedFilters (Filters.effective s knownAnalyzers) c } } := by
  cases c with
  | list => exact absurd rfl hc
  | add names =>
    by_cases hknown : ∀ n ∈ names, knownAnalyzers.contains n = true
    · rw [edit, Filters.add_of_known hknown] at h
      exact (congrArg Prod.fst (Except.ok.inj h)).symm
    · push Not at hknown
      obtain ⟨name, -, hunknown⟩ := Filters.add_of_unknown (s := s) (r := knownAnalyzers) (by simpa using hknown)
      rw [edit, hunknown] at h
      cases h
  | remove names =>
    by_cases hactive : ∀ n ∈ names, n ∈ Filters.effective s knownAnalyzers
    · rw [edit, Filters.remove_of_active hactive] at h
      exact (congrArg Prod.fst (Except.ok.inj h)).symm
    · push Not at hactive
      obtain ⟨name, -, hinactive⟩ := Filters.remove_of_inactive hactive
      rw [edit, hinactive] at h
      cases h

theorem sound_of_filters (h : s.Sound) (active : List String) :
    ({ s with analysis := { s.analysis with activeFilters := active } } : Settings).Sound :=
  ⟨h.maxConcurrency, h.pluginConcurrency, h.ports, h.prompts⟩

theorem filters_of_edit_error {e : FilterError} (h : edit colour s c = .error e) :
    (filters colour home s file c : OnTree _) = pure (.error (.filter e)) := by
  rw [filters, h]

theorem run_filters_of_edit_ok {edited : Settings} (h : edit colour s c = .ok (some edited, said)) :
    ((filters colour home s file c : OnTree _).run t).run mc =
      let r := ((persist edited file home : OnTree _).run t).run mc
      (((r.1.1.map fun _ => said).mapError .settings, r.1.2), r.2) := by
  rw [filters, h]
  rfl

theorem invoke_run (hi : i.command = .filters c)
    (hfile : t.settingsFile i.config w.workingDirectory w.home = file)
    (hload : t.settingsFrom file = .ok s) :
    ((invoke w i).run t).run mc = ((filters w.colour w.home s file c : OnTree _).run t).run mc := by
  rw [invoke, (t.finds_inEffect i.config w.workingDirectory w.home).run_bind, hfile,
    (t.finds_loadFrom file).run_bind, hload, hi]
  rfl

/-! ## 2. Edits persist -/

/-- What a start of the program finds: the settings file in effect, and the settings that are then
loaded under its name. -/
def found {m : Type → Type} [Monad m] [MonadFiles m] (named dir home : Option String) :
    m (Option String × Except SettingsError Settings) := do
  let file ← Settings.File.inEffect named dir home
  return (file, ← Settings.File.loadInEffect file none home)

theorem finds_found (t : FileTree) (named dir home : Option String) :
    t.Finds (found named dir home)
      (t.settingsFile named dir home, t.settingsFrom (t.settingsFile named dir home)) :=
  (t.finds_inEffect named dir home).bind
    ((t.finds_loadInEffect named dir home).bind (t.finds_pure _))

theorem found_after_write {named dir : Option String} {path : String} {place : Place}
    (hsound : s.Sound) (huntempered : s.Untempered)
    (hwrite : t.Rewritten place (Text.Utf8.encode s.render) t')
    (hpath : (t.settingsFile named dir home).or (global home) = some path)
    (hplace : t.locate path = .ok place) :
    ∃ file', t'.Finds (found named dir home) (some file', .ok s) ∧ t'.locate file' = .ok place ∧
      ((t.settingsFile named dir home).isSome = true → file' = path) := by
  obtain ⟨file', hfile', hplace', hsame⟩ := hwrite.exists_settingsFile hpath hplace
  have hfinds := finds_found t' named dir home
  rw [hfile', hwrite.settingsFrom_eq hsound huntempered hplace'] at hfinds
  exact ⟨file', hfinds, hwrite.locate_iff.mpr hplace', hsame⟩

/-- **An edit writes the settings file in effect and nothing else, and the next start finds it.** The
settings that it finds are those that the edit started from, up to the filters: these are the filters that
were in effect, which without stored ones are those of the core group, with the missing names behind them
or without the removed ones. An edit that is refused leaves the tree. -/
theorem filter_edits_persist (hi : i.command = .filters c) (hc : c ≠ .list)
    (hfound : t.Finds (found i.config w.workingDirectory w.home) (file, .ok s))
    (huntempered : s.Untempered) {outcome : Except ProgramError String}
    (hrun : ((invoke w i).run t).run mc = ((outcome, t'), mc')) :
    let before :=
      if s.analysis.activeFilters = [] then knownAnalyzers.core.names else s.analysis.activeFilters
    let edited : Settings :=
      { s with analysis := { s.analysis with activeFilters := editedFilters before c } }
    (∀ said, outcome = .ok said →
      ∃ path place file',
        edit w.colour s c = .ok (some edited, said) ∧
        file.or (global w.home) = some path ∧ t.locate path = .ok place ∧
        t.Rewritten place (Text.Utf8.encode edited.render) t' ∧
        t'.Finds (found i.config w.workingDirectory w.home) (some file', .ok edited) ∧
        t'.locate file' = .ok place ∧ (file.isSome = true → file' = path)) ∧
    (∀ e, outcome = .error (.filter e) → t' = t) := by
  intro before edited
  have hbefore : Filters.effective s knownAnalyzers = before := Filters.effective_eq s knownAnalyzers
  obtain ⟨hfile, hload⟩ :=
    Prod.mk.inj ((finds_found t i.config w.workingDirectory w.home).unique hfound)
  rw [hfile] at hload
  rw [invoke_run hi hfile hload] at hrun
  obtain ⟨result, hedit⟩ : ∃ r, edit w.colour s c = r := ⟨_, rfl⟩
  cases result with
  | error e =>
    -- a refused edit is over before anything is written
    rw [filters_of_edit_error hedit] at hrun
    cases hrun
    exact ⟨nofun, fun _ _ => rfl⟩
  | ok result =>
    obtain ⟨_, said'⟩ := result
    obtain rfl := edit_eq_ok hc hedit
    rw [hbefore] at hedit
    rw [run_filters_of_edit_ok hedit] at hrun
    obtain ⟨⟨⟨result, t₁⟩, mc₁⟩, hpersist⟩ : ∃ r,
        ((persist edited file w.home : OnTree _).run t).run mc = r := ⟨_, rfl⟩
    rw [hpersist] at hrun
    cases result with
    | error cause =>
      cases hrun
      exact ⟨nofun, nofun⟩
    | ok u =>
      cases hrun
      refine ⟨fun said h => ?_, nofun⟩
      cases h
      obtain ⟨path, hpath, hwrite⟩ := writeBytes_of_persist hpersist
      obtain ⟨place, hplace, hrewritten⟩ := FileTree.rewritten_of_writeBytes hwrite
      -- settings that were loaded can be read again, whatever their filters
      have hsound : edited.Sound := sound_of_filters (FileTree.sound_of_settingsFrom hload) _
      obtain ⟨file', hfinds, hplace', hsame⟩ :=
        found_after_write hsound huntempered hrewritten (by rwa [hfile]) hplace
      rw [hfile] at hsame
      exact ⟨path, place, file', hedit, hpath, hplace, hrewritten, hfinds, hplace', hsame⟩

/-- Where there is no settings file, the first edit makes one in the home directory, with what it makes of
the core group. -/
theorem a_removed_filter_stays_removed :
    let t : FileTree := { entries := [(["home"], .directory), (["work"], .directory)] }
    let w : Surroundings OnTree :=
      { home := some "/home", userCache := none, workingDirectory := some "/work", colour := false
        send := fun _ => pure none, dial := fun _ => ⟨fun _ => pure (.error "")⟩
        freshKey := pure ⟨List.replicate 32 0, rfl⟩, now := pure 0 }
    let after (c : FilterCommand) := ((invoke w { command := .filters c }).run t).run {}
    let removal := FilterCommand.remove ["Pod"]
    let addition := FilterCommand.add ["Node", "Ingress", "Ingress"]
    let kept := ["Deployment", "Node", "PersistentVolumeClaim", "ReplicaSet", "Service"]
    let extended := ["Deployment", "Node", "PersistentVolumeClaim", "Pod", "ReplicaSet", "Service", "Ingress"]
    let written (active : List String) (t' : FileTree) :=
      let edited : Settings := { analysis := { activeFilters := active } }
      ∃ place file', t.locate "/home/.kube-doctor.toml" = .ok place ∧
        t.Rewritten place (Text.Utf8.encode edited.render) t' ∧
        t'.Finds (found none (some "/work") (some "/home")) (some file', .ok edited) ∧
        t'.locate file' = .ok place
    ((after removal).1.1 = .ok "Filters removed: Pod\n" ∧ written kept (after removal).1.2) ∧
      (after addition).1.1 = .ok "Filters added: Ingress\n" ∧ written extended (after addition).1.2 := by
  intro t w after removal addition kept extended written
  have hnone : t.settingsFile none (some "/work") (some "/home") = none := by decide +kernel
  have hfound : t.Finds (found none (some "/work") (some "/home")) (none, .ok {}) := by
    have hfinds := finds_found t none (some "/work") (some "/home")
    rwa [hnone] at hfinds
  have hglobal : global (some "/home") = some "/home/.kube-doctor.toml" := by decide +kernel
  have hwritten : ∀ (c : FilterCommand) said, c ≠ .list → (after c).1.1 = .ok said →
      written (editedFilters knownAnalyzers.core.names c) (after c).1.2 := by
    intro c said hc hsaid
    have hrun : ((invoke w { command := .filters c }).run t).run {} =
        (((after c).1.1, (after c).1.2), (after c).2) := rfl
    obtain ⟨path, place, file, -, hpath, hplace, hrewritten, hfinds, hfile, -⟩ :=
      (filter_edits_persist (w := w) (i := { command := .filters c }) rfl hc hfound nofun hrun).1 said hsaid
    obtain rfl : "/home/.kube-doctor.toml" = path := Option.some.inj (hglobal.symm.trans hpath)
    exact ⟨place, file, hplace, hrewritten, hfinds, hfile⟩
  have hremoved : (after removal).1.1 = .ok "Filters removed: Pod\n" := by decide +kernel
  have hadded : (after addition).1.1 = .ok "Filters added: Ingress\n" := by decide +kernel
  have hkept : editedFilters knownAnalyzers.core.names removal = kept := by decide +kernel
  have hextended : editedFilters knownAnalyzers.core.names addition = extended := by decide +kernel
  refine ⟨⟨hremoved, ?_⟩, hadded, ?_⟩
  · rw [← hkept]
    exact hwritten removal _ (by decide) hremoved
  · rw [← hextended]
    exact hwritten addition _ (by decide) hadded

end Program
end ClusterTriage
