import ClusterTriage.Files.Tree

/-!
# Writing one file

A path is followed through directories only, so a file is never on the way to anything.

> **Writing a file leaves every path that leads somewhere where it led** (`Rewritten.locate_iff`), and
> only what stands at one place is another (`Rewritten.elsewhere`).

What a program finds after a write is then what it found before, with one exception: any path that
leads to the written place now leads to that file (`Rewritten.kind?_isSome_iff`).
-/

namespace ClusterTriage
namespace FileTree

variable {t t' : FileTree} {here place other : Place} {path : String} {node : FileNode}
  {bytes : List UInt8}

/-! ## 1. What stands where -/

theorem lookup_map_of_ne {entries : List (Place × FileNode)} (h : other ≠ place) :
    (entries.map fun e => if e.1 == place then (place, node) else e).lookup other =
      entries.lookup other := by
  induction entries with
  | nil => rfl
  | cons e entries ih =>
    obtain ⟨p, n⟩ := e
    rw [List.map_cons]
    by_cases hp : p = place
    · subst hp
      rw [if_pos (beq_self_eq_true p), List.lookup_cons, List.lookup_cons, beq_false_of_ne h]
      exact ih
    · rw [if_neg (by simpa using hp), List.lookup_cons, List.lookup_cons, ih]

theorem lookup_map_self {entries : List (Place × FileNode)}
    (h : entries.any (·.1 == place) = true) :
    (entries.map fun e => if e.1 == place then (place, node) else e).lookup place = some node := by
  induction entries with
  | nil => cases h
  | cons e entries ih =>
    obtain ⟨p, n⟩ := e
    rw [List.map_cons]
    by_cases hp : p = place
    · subst hp
      rw [if_pos (beq_self_eq_true p), List.lookup_cons, beq_self_eq_true]
    · rw [if_neg (by simpa using hp), List.lookup_cons, beq_false_of_ne (Ne.symm hp)]
      exact ih (by simpa [hp] using h)

theorem find?_insert (hplace : place ≠ []) :
    (t.insert place node).find? other = if other = place then some node else t.find? other := by
  unfold find? insert
  by_cases hany : t.entries.any (·.1 == place) = true
  · rw [if_pos hany]
    by_cases hother : other = place
    · rw [if_pos hother, hother, if_neg hplace, lookup_map_self hany]
    · rw [if_neg hother, lookup_map_of_ne hother]
  · rw [if_neg hany]
    have hnone : t.entries.lookup place = none := by
      refine List.lookup_eq_none_iff.mpr fun e he => bne_iff_ne.mpr fun heq => hany ?_
      exact List.any_eq_true.mpr ⟨e, he, beq_iff_eq.mpr heq.symm⟩
    by_cases hother : other = place
    · rw [if_pos hother, hother, if_neg hplace, List.lookup_append, hnone, Option.none_or,
        List.lookup_cons, beq_self_eq_true]
    · rw [if_neg hother, List.lookup_append, List.lookup_cons, beq_false_of_ne hother]
      simp

/-! ## 2. The way to a place -/

/-- Every directory of the one tree is one of the other. -/
def KeepsDirectories (t t' : FileTree) : Prop :=
  ∀ p, t.find? p = some .directory → t'.find? p = some .directory

/-- Trees with the same directories. -/
def SameDirectories (t t' : FileTree) : Prop :=
  ∀ p, t.find? p = some .directory ↔ t'.find? p = some .directory

theorem SameDirectories.symm (h : SameDirectories t t') : SameDirectories t' t := fun p => (h p).symm

theorem SameDirectories.keeps (h : SameDirectories t t') : KeepsDirectories t t' := fun p => (h p).mp

theorem KeepsDirectories.follow (h : KeepsDirectories t t') {names : List String}
    (hfollow : t.follow here names = .ok place) : t'.follow here names = .ok place := by
  induction names generalizing here with
  | nil => exact hfollow
  | cons name rest ih =>
    rw [FileTree.follow] at hfollow ⊢
    -- only a directory lets the way go on
    have hdirectory : t.find? here = some .directory := by
      cases hfind : t.find? here with
      | none =>
        rw [hfind] at hfollow
        cases hfollow
      | some n =>
        cases n with
        | file bytes mode =>
          rw [hfind] at hfollow
          cases hfollow
        | directory => rfl
    rw [hdirectory] at hfollow
    rw [h here hdirectory]
    dsimp only at hfollow ⊢
    by_cases hdot : name = "."
    · rw [if_pos hdot] at hfollow ⊢
      exact ih hfollow
    rw [if_neg hdot] at hfollow ⊢
    by_cases hdots : name = ".."
    · rw [if_pos hdots] at hfollow ⊢
      exact ih hfollow
    rw [if_neg hdots] at hfollow ⊢
    by_cases hlong : 255 < name.utf8ByteSize
    · rw [if_pos hlong] at hfollow
      cases hfollow
    rw [if_neg hlong] at hfollow ⊢
    exact ih hfollow

theorem KeepsDirectories.locate (h : KeepsDirectories t t') (hworking : t'.working = t.working)
    (hlocate : t.locate path = .ok place) : t'.locate path = .ok place := by
  have hstart : t'.start path = t.start path := by rw [start, start, hworking]
  unfold FileTree.locate at hlocate ⊢
  rw [hstart]
  by_cases hempty : path = ""
  · rw [if_pos hempty] at hlocate
    cases hlocate
  rw [if_neg hempty] at hlocate ⊢
  by_cases hnul : path.toList.contains '\x00' = true
  · rw [if_pos hnul] at hlocate
    cases hlocate
  rw [if_neg hnul] at hlocate ⊢
  by_cases hlong : 4095 < path.utf8ByteSize
  · rw [if_pos hlong] at hlocate
    cases hlocate
  rw [if_neg hlong] at hlocate ⊢
  exact h.follow hlocate

theorem nodeAt_eq_ok :
    t.nodeAt path = .ok node ↔ ∃ p, t.locate path = .ok p ∧ t.find? p = some node := by
  unfold nodeAt
  cases hlocate : t.locate path with
  | error e => simp [bind, Except.bind]
  | ok p =>
    cases hfind : t.find? p with
    | none => simp [bind, Except.bind, hfind]
    | some n => simp [bind, Except.bind, hfind]

theorem kind?_isSome : (t.kind? path).isSome = true ↔ ∃ node, t.nodeAt path = .ok node := by
  unfold kind?
  cases t.nodeAt path with
  | error e => simp
  | ok n => cases n <;> simp

theorem kind?_eq_regular : t.kind? path = some .regular ↔
    ∃ p bytes mode, t.locate path = .ok p ∧ t.find? p = some (.file bytes mode) := by
  rw [kind?]
  cases hnode : t.nodeAt path with
  | error e =>
    refine iff_of_false nofun ?_
    rintro ⟨p, bytes, mode, hp, hfind⟩
    exact absurd (hnode.symm.trans (nodeAt_eq_ok.mpr ⟨p, hp, hfind⟩)) nofun
  | ok node =>
    obtain ⟨p, hp, hfind⟩ := nodeAt_eq_ok.mp hnode
    cases node with
    | file bytes mode => exact iff_of_true rfl ⟨p, bytes, mode, hp, hfind⟩
    | directory =>
      refine iff_of_false nofun ?_
      rintro ⟨p', bytes, mode, hp', hfind'⟩
      obtain rfl := Except.ok.inj (hp.symm.trans hp')
      exact absurd (hfind.symm.trans hfind') nofun

/-! ## 3. What a write does -/

/-- One file was written, and nothing else was touched. -/
structure Rewritten (t : FileTree) (place : Place) (bytes : List UInt8) (t' : FileTree) : Prop where
  before : t.find? place ≠ some .directory
  after : ∃ mode, t'.find? place = some (.file bytes mode) ∧
    ∀ old m, t.find? place = some (.file old m) → mode = m
  elsewhere : ∀ other, other ≠ place → t'.find? other = t.find? other
  working : t'.working = t.working

theorem working_insert : (t.insert place node).working = t.working := by
  unfold insert
  split <;> rfl

theorem rewritten_insert {mode : Nat} (hbefore : t.find? place ≠ some .directory)
    (hmode : ∀ old m, t.find? place = some (.file old m) → mode = m) :
    t.Rewritten place bytes (t.insert place (.file bytes mode)) := by
  have hplace : place ≠ [] := by
    rintro rfl
    exact hbefore rfl
  refine ⟨hbefore, ⟨mode, ?_, hmode⟩, fun other hother => ?_, working_insert⟩
  · rw [find?_insert hplace, if_pos rfl]
  · rw [find?_insert hplace, if_neg hother]

theorem target_eq_ok (h : t.target path = .ok place) : t.locate path = .ok place := by
  unfold target at h
  split at h
  · cases hbare : t.locate (String.ofList (path.toList.reverse.dropWhile (· == '/')).reverse) with
    | error e =>
      rw [hbare] at h
      cases h
    | ok p =>
      rw [hbare] at h
      cases h
  · exact h

/-- A write that succeeds rewrites the file that the path leads to. -/
theorem rewritten_of_writeBytes (h : t.writeBytes path bytes = .ok t') :
    ∃ place, t.locate path = .ok place ∧ t.Rewritten place bytes t' := by
  unfold writeBytes at h
  cases htarget : t.target path with
  | error e =>
    rw [htarget] at h
    cases h
  | ok place =>
    rw [htarget] at h
    refine ⟨place, target_eq_ok htarget, ?_⟩
    dsimp only [bind, Except.bind] at h
    cases hfind : t.find? place with
    | none =>
      rw [hfind] at h
      obtain rfl := Except.ok.inj h
      exact rewritten_insert (by rw [hfind]; nofun) (by rw [hfind]; nofun)
    | some n =>
      cases n with
      | directory =>
        rw [hfind] at h
        cases h
      | file old mode =>
        rw [hfind] at h
        obtain rfl := Except.ok.inj h
        refine rewritten_insert (by rw [hfind]; nofun) fun old' m h' => ?_
        rw [hfind] at h'
        exact (FileNode.file.inj (Option.some.inj h')).2

namespace Rewritten

theorem sameDirectories (h : t.Rewritten place bytes t') : SameDirectories t t' := by
  intro p
  by_cases hp : p = place
  · obtain ⟨mode, hafter, -⟩ := h.after
    subst hp
    rw [hafter]
    exact ⟨fun hdir => absurd hdir h.before, nofun⟩
  · rw [h.elsewhere p hp]

theorem locate_iff (h : t.Rewritten place bytes t') :
    t'.locate path = .ok other ↔ t.locate path = .ok other :=
  ⟨h.sameDirectories.symm.keeps.locate h.working.symm, h.sameDirectories.keeps.locate h.working⟩

/-- The paths that lead to the written place are those under which the file is found. -/
theorem readBytes_eq (h : t.Rewritten place bytes t') (hpath : t.locate path = .ok place) :
    t'.readBytes path = .ok bytes := by
  obtain ⟨mode, hafter, -⟩ := h.after
  have hnode : t'.nodeAt path = .ok (.file bytes mode) :=
    nodeAt_eq_ok.mpr ⟨place, h.locate_iff.mpr hpath, hafter⟩
  rw [readBytes, hnode]
  rfl

/-- Something is found after a write where it was before, or where a path leads to what was
written. -/
theorem kind?_isSome_iff (h : t.Rewritten place bytes t') :
    (t'.kind? path).isSome = true ↔ (t.kind? path).isSome = true ∨ t.locate path = .ok place := by
  obtain ⟨mode, hafter, -⟩ := h.after
  simp only [kind?_isSome, nodeAt_eq_ok, h.locate_iff]
  constructor
  · rintro ⟨n, p, hp, hn⟩
    by_cases heq : p = place
    · exact .inr (heq ▸ hp)
    · exact .inl ⟨n, p, hp, by rwa [← h.elsewhere p heq]⟩
  · rintro (⟨n, p, hp, hn⟩ | hp)
    · by_cases heq : p = place
      · exact ⟨_, p, hp, heq ▸ hafter⟩
      · exact ⟨n, p, hp, by rwa [h.elsewhere p heq]⟩
    · exact ⟨_, place, hp, hafter⟩

end Rewritten

end FileTree
end ClusterTriage
