import ClusterTriage.Proofs.Files.Tree
import ClusterTriage.Proofs.Text.Substitution

/-!
# Entries of a directory

A path to an entry is written after the path of its directory, with a slash between them unless there is
one already. How far such a path leads is a question of the directory alone:

> **Names of one length lead to one directory** (`FileTree.exists_entries`), and in it each to the entry of
> its name.
-/

namespace ClusterTriage

/-! ## 1. Joined paths -/

namespace Path

/-- A name of an entry: not a way within the tree, and short enough. -/
structure Plain (name : String) : Prop where
  ne_empty : name ≠ ""
  no_slash : '/' ∉ name.toList
  no_nul : '\x00' ∉ name.toList
  ne_here : name ≠ "."
  ne_above : name ≠ ".."
  short : name.utf8ByteSize ≤ 255

variable {base name : String}

/-- What the name of an entry is written after. -/
def stem (base : String) : String :=
  if base = "" || namesDirectory base then base else base ++ "/"

theorem Plain.isAbsolute_eq (h : Plain name) : isAbsolute name = false := by
  rw [isAbsolute, beq_eq_false_iff_ne]
  exact fun hhead => h.no_slash (List.mem_of_head? hhead)

theorem join_eq (h : Plain name) : join base name = stem base ++ name := by
  rw [join, stem, h.isAbsolute_eq, if_neg Bool.false_ne_true]
  split <;> rfl

theorem join_ne_empty (h : Plain name) : join base name ≠ "" := by
  intro hempty
  rw [join_eq h, ← String.toList_eq_nil_iff, String.toList_append] at hempty
  exact h.ne_empty (String.toList_eq_nil_iff.mp (List.append_eq_nil_iff.mp hempty).2)

theorem isAbsolute_join (h : Plain name) : isAbsolute (join base name) = isAbsolute base := by
  rw [join_eq h]
  by_cases hempty : base = ""
  · subst hempty
    have hstem : stem "" ++ name = name := String.empty_append
    rw [hstem, h.isAbsolute_eq]
    rfl
  · obtain ⟨c, cs, hcs⟩ := List.exists_cons_of_ne_nil (mt String.toList_eq_nil_iff.mp hempty)
    have hhead : (stem base ++ name).toList.head? = some c := by
      rw [String.toList_append, stem]
      split
      · rw [hcs]; rfl
      · rw [String.toList_append, hcs]; rfl
    rw [isAbsolute, isAbsolute, hhead, hcs]
    rfl

theorem namesDirectory_join (h : Plain name) : namesDirectory (join base name) = false := by
  have hne : name.toList ≠ [] := mt String.toList_eq_nil_iff.mp h.ne_empty
  rw [namesDirectory, beq_eq_false_iff_ne, join_eq h, String.toList_append,
    List.getLast?_append_of_ne_nil _ hne]
  exact fun hlast => h.no_slash (List.mem_of_getLast? hlast)

theorem contains_nul_join (h : Plain name) :
    (join base name).toList.contains '\x00' = (stem base).toList.contains '\x00' := by
  rw [join_eq h, String.toList_append, List.contains_append]
  have hnul : name.toList.contains '\x00' = false := by
    rw [List.contains_eq_mem, decide_eq_false h.no_nul]
  rw [hnul, Bool.or_false]

theorem utf8ByteSize_join (h : Plain name) :
    (join base name).utf8ByteSize = (stem base).utf8ByteSize + name.utf8ByteSize := by
  rw [join_eq h, String.utf8ByteSize_append]

/-- A name after a slash is a name of its own. -/
theorem names_of_slash (h : Plain name) {path : String} {cs : List Char}
    (hpath : path.toList = cs ++ '/' :: name.toList) : names path = names (String.ofList cs) ++ [name] := by
  rw [names, names, Text.splitString, Text.splitString, hpath, Text.splitOnChar_append,
    Text.splitOnChar_of_not_mem h.no_slash, List.map_append, List.filter_append, String.toList_ofList]
  simp [h.ne_empty]

theorem names_join (h : Plain name) : names (join base name) = names base ++ [name] := by
  rw [join_eq h, stem]
  by_cases hempty : base = ""
  · subst hempty
    have hsplit : Text.splitOnChar '/' name.toList = [name.toList] :=
      Text.splitOnChar_of_not_mem h.no_slash
    rw [if_pos (by simp), String.empty_append, names, Text.splitString, hsplit]
    simp [h.ne_empty, names, Text.splitString, Text.splitOnChar]
  by_cases hslash : namesDirectory base = true
  · obtain ⟨cs, hcs⟩ := List.getLast?_eq_some_iff.mp (beq_iff_eq.mp hslash)
    have hbase : names base = names (String.ofList cs) := by
      rw [names, names, Text.splitString, Text.splitString, hcs, Text.splitOnChar_append,
        List.map_append, List.filter_append, String.toList_ofList]
      simp [Text.splitOnChar]
    rw [if_pos (by simp [hslash]), hbase]
    refine names_of_slash h ?_
    rw [String.toList_append, hcs, List.append_assoc]
    rfl
  · rw [if_neg (by simp [hempty, hslash])]
    have hcs : (base ++ "/" ++ name).toList = base.toList ++ '/' :: name.toList := by
      rw [String.toList_append, String.toList_append, List.append_assoc]
      rfl
    rw [names_of_slash h hcs, String.ofList_toList]

end Path

/-! ## 2. Where they lead -/

namespace FileTree

variable {t t' : FileTree} {here place d : Place} {base name : String} {names : List String}

theorem follow_concat (h : Path.Plain name) : t.follow here (names ++ [name]) = .ok place ↔
    ∃ d, t.follow here names = .ok d ∧ t.find? d = some .directory ∧ place = d ++ [name] := by
  induction names generalizing here with
  | nil =>
    have hshort : ¬ 255 < name.utf8ByteSize := Nat.not_lt.mpr h.short
    rw [List.nil_append, follow]
    cases hfind : t.find? here with
    | none => simp [follow, hfind]
    | some node =>
      cases node with
      | file bytes mode => simp [follow, hfind]
      | directory => simp [follow, hfind, h.ne_here, h.ne_above, hshort, eq_comm]
  | cons first rest ih =>
    -- both ways go on alike, or both end here
    rw [List.cons_append, follow, follow]
    cases hfind : t.find? here with
    | none => simp
    | some node =>
      cases node with
      | file bytes mode => simp
      | directory =>
        dsimp only
        split
        · exact ih
        split
        · exact ih
        split
        · simp
        · exact ih

/-- The directory that a path leads to, as the place of its entries. -/
def Entries (t : FileTree) (base : String) (size : Nat) (d : Place) : Prop :=
  ∀ name, Path.Plain name → name.utf8ByteSize = size → t.locate (Path.join base name) = .ok (d ++ [name])

theorem locate_join (h : Path.Plain name) : t.locate (Path.join base name) =
    if (Path.stem base).toList.contains '\x00' then .error .nulInName
    else if 4095 < (Path.stem base).utf8ByteSize + name.utf8ByteSize then .error .nameTooLong
    else t.follow (t.start base) (Path.names base ++ [name]) := by
  have hstart : t.start (Path.join base name) = t.start base := by
    rw [start, start, Path.isAbsolute_join h]
  rw [locate, if_neg (Path.join_ne_empty h), Path.contains_nul_join h, Path.utf8ByteSize_join h]
  dsimp only
  rw [Path.namesDirectory_join h, if_neg Bool.false_ne_true, Path.names_join h, hstart]

/-- **Where one name leads to an entry, all names of its length do.** -/
theorem exists_entries (h : Path.Plain name) (hlocate : t.locate (Path.join base name) = .ok place) :
    ∃ d, place = d ++ [name] ∧ t.Entries base name.utf8ByteSize d := by
  rw [locate_join h] at hlocate
  split at hlocate
  · cases hlocate
  rename_i hnul
  split at hlocate
  · cases hlocate
  rename_i hlong
  obtain ⟨d, hd, hdirectory, hplace⟩ := (follow_concat h).mp hlocate
  refine ⟨d, hplace, fun other hother hsize => ?_⟩
  rw [locate_join hother, if_neg hnul, hsize, if_neg hlong]
  exact (follow_concat hother).mpr ⟨d, hd, hdirectory, rfl⟩

theorem KeepsDirectories.entries (h : KeepsDirectories t t') (hworking : t'.working = t.working)
    {size : Nat} (hd : t.Entries base size d) : t'.Entries base size d :=
  fun name hname hsize => h.locate hworking (hd name hname hsize)

end FileTree
end ClusterTriage
