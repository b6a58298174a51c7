import ClusterTriage.Proofs.Files.Requests
import ClusterTriage.Proofs.Files.Tree
import ClusterTriage.Proofs.Settings.Coding
import ClusterTriage.Proofs.Text.Utf8

/-!
# Settings in effect on a file tree

Looking for settings changes nothing, so on a file tree the settings in effect are a function of the
tree (`FileTree.settingsFile`, `FileTree.settingsFrom`).

> **Settings that are written to the file in effect are in effect** (`Rewritten.exists_settingsFile`,
> `Rewritten.settingsFrom_eq`).

Where there was no such file, the settings go to the one in the home directory. It may then be found
as the one in the working directory, if both are the same place.
-/

namespace ClusterTriage
namespace FileTree

open Settings.File (inDirectory global)

variable {t t' : FileTree} {place : Place} {path : String} {bytes : List UInt8}

/-! ## 1. The settings in effect -/

def present (t : FileTree) (path : Option String) : Option String :=
  path.filter fun p => (t.kind? p).isSome

def settingsFile (t : FileTree) (named dir home : Option String) : Option String :=
  named.or ((t.present (dir.map inDirectory)).or (t.present (global home)))

def settingsFrom (t : FileTree) : Option String → Except SettingsError Settings
  | none => .ok {}
  | some path =>
    match t.readText path with
    | .error e => .error (.read path e)
    | .ok text =>
      match Settings.parse? text with
      | some s => .ok s
      | none => .error (.undecodable path)

theorem finds_whereExists (t : FileTree) (path : Option String) :
    t.Finds (Settings.File.whereExists path) (t.present path) := by
  cases path with
  | none => exact finds_pure t none
  | some p =>
    refine (finds_pathExists t p).bind ?_
    rw [present, Option.filter_some]
    split
    · exact finds_pure t (some p)
    · exact finds_pure t none

theorem finds_inEffect (t : FileTree) (named dir home : Option String) :
    t.Finds (Settings.File.inEffect named dir home) (t.settingsFile named dir home) := by
  cases named with
  | some path => exact finds_pure t (some path)
  | none =>
    refine (finds_whereExists t (dir.map inDirectory)).bind ?_
    rw [settingsFile, Option.none_or]
    cases t.present (dir.map inDirectory) with
    | some path => exact finds_pure t (some path)
    | none => exact finds_whereExists t (global home)

theorem finds_loadFrom (t : FileTree) (file : Option String) :
    t.Finds (Settings.File.loadFrom file) (t.settingsFrom file) := by
  cases file with
  | none => exact finds_pure t (Except.ok ({} : Settings))
  | some path =>
    refine (finds_readText t path).bind ?_
    rw [settingsFrom]
    cases t.readText path with
    | error e => exact finds_pure t (Except.error _)
    | ok text =>
      dsimp only
      cases Settings.parse? text with
      | none => exact finds_pure t (Except.error _)
      | some s => exact finds_pure t (Except.ok s)

/-- Settings are looked for a second time under the name that was found. Where nothing was found there
is nothing in the home directory either, so the second search ends as the first. -/
theorem finds_loadInEffect (t : FileTree) (named dir home : Option String) :
    t.Finds (Settings.File.loadInEffect (t.settingsFile named dir home) none home)
      (t.settingsFrom (t.settingsFile named dir home)) := by
  refine (finds_inEffect t _ none home).bind ?_
  have hagain : t.settingsFile (t.settingsFile named dir home) none home =
      t.settingsFile named dir home := by
    cases hfile : t.settingsFile named dir home with
    | some path => rfl
    | none =>
      obtain ⟨-, hglobal⟩ := Option.or_eq_none_iff.mp (Option.or_eq_none_iff.mp hfile).2
      exact hglobal
  rw [hagain]
  exact finds_loadFrom t _

theorem sound_of_settingsFrom {file : Option String} {s : Settings}
    (h : t.settingsFrom file = .ok s) : s.Sound := by
  cases file with
  | none =>
    obtain rfl := Except.ok.inj h
    exact Settings.sound_default
  | some path =>
    rw [settingsFrom] at h
    cases htext : t.readText path with
    | error e =>
      rw [htext] at h
      cases h
    | ok text =>
      rw [htext] at h
      cases hparse : Settings.parse? text with
      | none => simp [hparse] at h
      | some s' =>
        obtain rfl : s' = s := by simpa [hparse] using h
        exact Settings.sound_of_parse? hparse

/-! ## 2. After a write -/

theorem present_eq_some {path : Option String} {p : String} :
    t.present path = some p ↔ path = some p ∧ (t.kind? p).isSome = true := by
  rw [present, Option.filter_eq_some_iff]

theorem kind?_congr {other : String} (h : t.locate path = t.locate other) :
    t.kind? path = t.kind? other := by
  rw [kind?, kind?, nodeAt, nodeAt, h]

theorem Rewritten.settingsFrom_eq {s : Settings} (hsound : s.Sound) (huntempered : s.Untempered)
    (h : t.Rewritten place (Text.Utf8.encode s.render) t') (hpath : t.locate path = .ok place) :
    t'.settingsFrom (some path) = .ok s := by
  have htext : t'.readText path = .ok s.render := by
    rw [readText, h.readBytes_eq hpath]
    dsimp only
    rw [Text.Utf8.decode_encode]
    rfl
  rw [settingsFrom, htext]
  dsimp only
  rw [Settings.parse?_render hsound huntempered]

/-- The file that was in effect stays so, and one that was made for want of one is in effect from then
on. -/
theorem Rewritten.exists_settingsFile {named dir home : Option String}
    (h : t.Rewritten place bytes t')
    (hpath : (t.settingsFile named dir home).or (global home) = some path)
    (hplace : t.locate path = .ok place) :
    ∃ file, t'.settingsFile named dir home = some file ∧ t.locate file = .ok place ∧
      ((t.settingsFile named dir home).isSome = true → file = path) := by
  cases named with
  | some p =>
    -- a file that was named is in effect whatever stands where
    obtain rfl : p = path := Option.some.inj hpath
    exact ⟨p, rfl, hplace, fun _ => rfl⟩
  | none =>
    rw [settingsFile, Option.none_or] at hpath ⊢
    rw [settingsFile, Option.none_or]
    cases hlocal : t.present (dir.map inDirectory) with
    | some l =>
      -- a write takes nothing away, so the file in the working directory is still the first
      rw [hlocal] at hpath
      obtain rfl : l = path := Option.some.inj hpath
      obtain ⟨hdir, hkind⟩ := present_eq_some.mp hlocal
      rw [present_eq_some.mpr ⟨hdir, h.kind?_isSome_iff.mpr (.inl hkind)⟩]
      exact ⟨l, rfl, hplace, fun _ => rfl⟩
    | none =>
      -- the file in the home directory was found or made
      rw [hlocal, Option.none_or] at hpath
      have hhome : global home = some path := by
        cases hpresent : t.present (global home) with
        | none => rwa [hpresent, Option.none_or] at hpath
        | some p =>
          rw [hpresent] at hpath
          obtain rfl : p = path := Option.some.inj hpath
          exact (present_eq_some.mp hpresent).1
      have hfound : t'.present (global home) = some path :=
        present_eq_some.mpr ⟨hhome, h.kind?_isSome_iff.mpr (.inr hplace)⟩
      cases hlocal' : t'.present (dir.map inDirectory) with
      | none => exact ⟨path, hfound, hplace, fun _ => rfl⟩
      | some l =>
        -- the working directory shows a settings file since the write, so it is the home directory
        obtain ⟨hdir, hkind'⟩ := present_eq_some.mp hlocal'
        have hmissing : ¬ (t.kind? l).isSome = true := fun hkind => by
          rw [present_eq_some.mpr ⟨hdir, hkind⟩] at hlocal
          cases hlocal
        have hsame : t.locate l = .ok place :=
          (h.kind?_isSome_iff.mp hkind').resolve_left hmissing
        refine ⟨l, rfl, hsame, fun hsome => ?_⟩
        rw [Option.none_or] at hsome
        obtain ⟨p, hp⟩ := Option.isSome_iff_exists.mp hsome
        obtain ⟨hhome', hkind⟩ := present_eq_some.mp hp
        obtain rfl : path = p := Option.some.inj (hhome.symm.trans hhome')
        rw [kind?_congr (hplace.trans hsame.symm)] at hkind
        exact absurd hkind hmissing

end FileTree
end ClusterTriage
