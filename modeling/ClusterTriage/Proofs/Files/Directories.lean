import ClusterTriage.Files.Directories
import ClusterTriage.Proofs.Files.Requests
import ClusterTriage.Proofs.Files.Tree

/-!
# What creating directories leaves

> **Creating directories takes nothing away**, whether or not it succeeds: what stands stays, and what is
> new is a directory (`Grown`, `does_makeDirectories`).

A program that creates directories and writes files under names of one kind spares all other files
(`Spared`).
-/

namespace ClusterTriage
namespace FileTree

variable {t t₁ t' : FileTree} {place p : Place} {path : String} {bytes : List UInt8} {node : FileNode}
  {α β : Type}

/-! ## 1. Growing trees -/

/-- Directories were added, and nothing else was touched. -/
structure Grown (t t' : FileTree) : Prop where
  stays : ∀ p node, t.find? p = some node → t'.find? p = some node
  added : ∀ p, t.find? p = none → t'.find? p = none ∨ t'.find? p = some .directory
  working : t'.working = t.working

namespace Grown

theorem refl (t : FileTree) : Grown t t := ⟨fun _ _ h => h, fun _ => .inl, rfl⟩

theorem trans (h₁ : Grown t t₁) (h₂ : Grown t₁ t') : Grown t t' where
  stays p node h := h₂.stays p node (h₁.stays p node h)
  added p h := by
    rcases h₁.added p h with hnone | hnew
    · exact h₂.added p hnone
    · exact .inr (h₂.stays p _ hnew)
  working := h₂.working.trans h₁.working

theorem keepsDirectories (h : Grown t t') : KeepsDirectories t t' := fun p => h.stays p .directory

theorem locate (h : Grown t t') (hlocate : t.locate path = .ok place) : t'.locate path = .ok place :=
  h.keepsDirectories.locate h.working hlocate

theorem kind?_eq_regular (h : Grown t t') (hkind : t.kind? path = some .regular) :
    t'.kind? path = some .regular := by
  obtain ⟨p, bytes, mode, hp, hfind⟩ := FileTree.kind?_eq_regular.mp hkind
  exact FileTree.kind?_eq_regular.mpr ⟨p, bytes, mode, h.locate hp, h.stays p _ hfind⟩

/-- A tree grows no files. -/
theorem file_iff (h : Grown t t') {mode : Nat} :
    t'.find? p = some (.file bytes mode) ↔ t.find? p = some (.file bytes mode) := by
  refine ⟨fun hfile => ?_, h.stays p _⟩
  cases hfind : t.find? p with
  | some node => rw [← h.stays p node hfind, hfile]
  | none =>
    rcases h.added p hfind with hnone | hnew
    · exact absurd (hnone.symm.trans hfile) nofun
    · exact absurd (hnew.symm.trans hfile) nofun

end Grown

theorem grown_insert (hplace : t.find? place = none) : Grown t (t.insert place .directory) := by
  have hne : place ≠ [] := by
    rintro rfl
    cases hplace
  refine ⟨fun p node h => ?_, fun p h => ?_, working_insert⟩
  · rwa [find?_insert hne, if_neg]
    rintro rfl
    exact absurd (hplace.symm.trans h) nofun
  · rw [find?_insert hne]
    split
    · exact .inr rfl
    · exact .inl h

theorem grown_of_makeDirectory (h : t.makeDirectory path = .ok t') : Grown t t' := by
  unfold makeDirectory at h
  dsimp only at h
  generalize String.ofList (path.toList.reverse.dropWhile (· == '/')).reverse = bare at h
  cases hlocate : t.locate (if bare = "" then path else bare) with
  | error e =>
    rw [hlocate] at h
    cases h
  | ok place =>
    rw [hlocate] at h
    dsimp only [bind, Except.bind] at h
    cases hfind : t.find? place with
    | some node =>
      rw [hfind] at h
      cases h
    | none =>
      rw [hfind] at h
      obtain rfl := Except.ok.inj h
      exact grown_insert hfind

/-! ## 2. Creating directories -/

/-- Whatever comes of `x`, the tree has only grown. -/
def Grows (x : OnTree α) : Prop := ∀ t : FileTree, ∃ a t', t.Does x a t' ∧ Grown t t'

theorem grows_pure (a : α) : Grows (pure a : OnTree α) :=
  fun t => ⟨a, t, does_pure t a, .refl t⟩

theorem Grows.bind {x : OnTree α} {f : α → OnTree β} (hx : Grows x) (hf : ∀ a, Grows (f a)) :
    Grows (x >>= f) := by
  intro t
  obtain ⟨a, t₁, hdoes₁, hgrown₁⟩ := hx t
  obtain ⟨b, t₂, hdoes₂, hgrown₂⟩ := hf a t₁
  exact ⟨b, t₂, hdoes₁.bind hdoes₂, hgrown₁.trans hgrown₂⟩

theorem grows_makeDirectory (path : String) : Grows (MonadFiles.makeDirectory path) := by
  intro t
  refine ⟨_, _, does_update t (·.makeDirectory path), ?_⟩
  cases h : t.makeDirectory path with
  | ok t' => exact grown_of_makeDirectory h
  | error e => exact .refl t

theorem grows_ensureDirectory (path : String) : Grows (Files.ensureDirectory path) := by
  refine (grows_makeDirectory path).bind fun outcome => ?_
  cases outcome with
  | ok _ => exact grows_pure (Except.ok ())
  | error e =>
    refine Grows.bind (fun t => ⟨_, t, (finds_kind? t path).does, .refl t⟩) fun kind => ?_
    split
    · exact grows_pure (Except.ok ())
    · exact grows_pure (Except.error e)

theorem grows_makeDirectoriesUpTo (depth : Nat) (path : String) :
    Grows (Files.makeDirectoriesUpTo depth path) := by
  induction depth generalizing path with
  | zero => exact grows_ensureDirectory path
  | succ depth ih =>
    rw [Files.makeDirectoriesUpTo]
    refine (grows_ensureDirectory path).bind fun outcome => ?_
    split
    · split
      · exact grows_pure (Except.error FileError.notFound)
      · exact grows_ensureDirectory path
      · rename_i above _ _
        refine (ih above).bind fun outcome' => ?_
        cases outcome' with
        | ok _ => exact grows_ensureDirectory path
        | error e => exact grows_pure (Except.error e)
    · exact grows_pure outcome

theorem grows_makeDirectories (path : String) : Grows (Files.makeDirectories path) := by
  rw [Files.makeDirectories]
  split
  · exact grows_pure (Except.ok ())
  · exact grows_makeDirectoriesUpTo _ path

theorem grows_makeParent (path : String) : Grows (Files.makeParent path) := by
  rw [Files.makeParent]
  split
  · exact grows_makeDirectories _
  · exact grows_pure (Except.ok ())

/-- What comes of creating a directory, and the tree that is left. -/
def made (t : FileTree) (path : String) : Except FileError Unit × FileTree :=
  (((Files.makeDirectories path : OnTree _).run t).run {}).1

/-- **Creating directories only adds directories.** -/
theorem does_makeDirectories (t : FileTree) (path : String) :
    t.Does (Files.makeDirectories path) (t.made path).1 (t.made path).2 ∧ Grown t (t.made path).2 := by
  obtain ⟨a, t', hdoes, hgrown⟩ := grows_makeDirectories path t
  have hmade : t.made path = (a, t') := congrArg Prod.fst (hdoes {})
  rw [hmade]
  exact ⟨hdoes, hgrown⟩

/-! ## 3. What is left alone -/

/-- Of all files, only some with names of one kind may have been touched, and no directory is gone. -/
structure Spared (touched : String → Prop) (t t' : FileTree) : Prop where
  files : ∀ p : Place, (∀ name ∈ p.getLast?, ¬ touched name) → ∀ bytes mode,
    t'.find? p = some (.file bytes mode) ↔ t.find? p = some (.file bytes mode)
  directories : KeepsDirectories t t'
  working : t'.working = t.working

namespace Spared

variable {touched : String → Prop}

theorem refl (touched : String → Prop) (t : FileTree) : Spared touched t t :=
  ⟨fun _ _ _ _ => .rfl, fun _ h => h, rfl⟩

theorem trans (h₁ : Spared touched t t₁) (h₂ : Spared touched t₁ t') : Spared touched t t' where
  files p hp bytes mode := (h₂.files p hp bytes mode).trans (h₁.files p hp bytes mode)
  directories p h := h₂.directories p (h₁.directories p h)
  working := h₂.working.trans h₁.working

/-- What a path leads to is there afterwards, unless it is a file of the kind. -/
theorem nodeAt (h : Spared touched t t') (hlocate : t.locate path = .ok place)
    (hplace : ∀ name ∈ place.getLast?, ¬ touched name) (hnode : t.nodeAt path = .ok node) :
    t'.nodeAt path = .ok node := by
  obtain ⟨p, hp, hfind⟩ := nodeAt_eq_ok.mp hnode
  obtain rfl : place = p := Except.ok.inj (hlocate.symm.trans hp)
  refine nodeAt_eq_ok.mpr ⟨place, h.directories.locate h.working hlocate, ?_⟩
  cases node with
  | file bytes mode => exact (h.files place hplace bytes mode).mpr hfind
  | directory => exact h.directories place hfind

end Spared

theorem Grown.spared (h : Grown t t') (touched : String → Prop) : Spared touched t t' :=
  ⟨fun _ _ _ _ => h.file_iff, h.keepsDirectories, h.working⟩

theorem Rewritten.spared {touched : String → Prop} (h : t.Rewritten place bytes t')
    (hplace : ∃ name ∈ place.getLast?, touched name) : Spared touched t t' := by
  refine ⟨fun p hp bytes mode => ?_, h.sameDirectories.keeps, h.working⟩
  rw [h.elsewhere p]
  rintro rfl
  obtain ⟨name, hlast, hname⟩ := hplace
  exact hp name hlast hname

end FileTree
end ClusterTriage
