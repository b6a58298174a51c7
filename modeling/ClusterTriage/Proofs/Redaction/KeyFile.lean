import ClusterTriage.Proofs.Explanation.Payload
import ClusterTriage.Proofs.Files.Directories
import ClusterTriage.Redaction.KeyFile

/-!
# The key of an installation

Every run of the program asks for the key of the installation and brings a fresh one along, in case there
is none yet. Which of the two it gets is decided by what stands at the path of the key file when it asks, so
two runs agree if the second finds there what the first has left.

> **The key file is written once** (`key_file_is_created_once`): the call that creates it returns the key
> that it has written, every later call returns that key again and touches nothing, and a file that holds no
> key is reported and left as it is.

So a run of any number of calls is some refusals and then one key over and over (`exists_calls`).
-/

namespace ClusterTriage
namespace Redaction
namespace KeyFile

open Encoding

variable {path text : String} {k fresh : Key} {t t₁ t₂ t' : FileTree} {bytes : List UInt8}
  {outcome : Except KeyError Key}

/-! ## 1. Written keys -/

/-- **A text holds a key if it is the written form of the key**, blanks around it aside. -/
theorem parse?_eq_some : parse? text = some k ↔ Text.trim text.toList = Base64.encode k.bytes := by
  rw [parse?, Option.bind_eq_bind, Option.bind_eq_some_iff]
  constructor
  · rintro ⟨bytes, hdecode, hkey⟩
    rw [Key.ofBytes?] at hkey
    split at hkey
    · obtain rfl := Option.some.inj hkey
      exact Base64.encode_of_decode hdecode
    · cases hkey
  · intro htrim
    refine ⟨k.bytes, by rw [htrim, Base64.decode_encode], ?_⟩
    rw [Key.ofBytes?, dif_pos k.length_eq]

theorem parse?_render (k : Key) : parse? (render k) = some k := by
  refine parse?_eq_some.mpr ?_
  rw [render, Base64.encodeString, String.toList_ofList]
  exact Text.trim_of_no_blank fun c hc => Base64.not_blank_of_mem_encode hc

/-! ## 2. A file that is there -/

def keyAt (t : FileTree) (path : String) : Except KeyError Key :=
  match t.readText path with
  | .error e => .error (.file path e)
  | .ok text =>
    match parse? text with
    | some k => .ok k
    | none => .error (.corrupt path)

theorem finds_load (t : FileTree) (path : String) : t.Finds (load path) (keyAt t path) := by
  refine (t.finds_readText path).bind ?_
  rw [keyAt]
  cases t.readText path with
  | error e => exact t.finds_pure (Except.error (KeyError.file path e))
  | ok text =>
    dsimp only
    cases parse? text with
    | none => exact t.finds_pure (Except.error (KeyError.corrupt path))
    | some k => exact t.finds_pure (Except.ok k)

/-- A call that finds something at the path only reads. -/
theorem finds_loadOrCreate (h : (t.kind? path).isSome = true) (fresh : Key) :
    t.Finds (loadOrCreate path fresh) (keyAt t path) := by
  refine (t.finds_pathExists path).bind ?_
  rw [if_pos h]
  exact finds_load t path

theorem readText_of_nodeAt {mode : Nat} (h : t.nodeAt path = .ok (.file bytes mode)) :
    t.readText path = (Text.Utf8.decode bytes).mapError fun _ => .notUtf8 := by
  rw [FileTree.readText, FileTree.readBytes, h]
  rfl

/-- **What a text comes to as a key.** It holds a key if it is the written form of one with nothing but
blanks around it; any other text is no key, and what is no text cannot be read. -/
theorem keyAt_cases (t : FileTree) (path : String) :
    (∀ k, keyAt t path = .ok k ↔
      ∃ text, t.readText path = .ok text ∧ Text.trim text.toList = Base64.encode k.bytes) ∧
    (keyAt t path = .error (.corrupt path) ↔
      ∃ text, t.readText path = .ok text ∧
        ∀ bytes, Text.trim text.toList = Base64.encode bytes → bytes.length ≠ 32) ∧
    ∀ cause, keyAt t path = .error (.file path cause) ↔ t.readText path = .error cause := by
  rw [keyAt]
  cases t.readText path with
  | error e => simp
  | ok text =>
    simp only [Except.ok.injEq, exists_eq_left', ← parse?_eq_some]
    cases hparse : parse? text with
    | none =>
      refine ⟨by simp, ?_, by simp⟩
      refine iff_of_true rfl fun bytes htrim hlength => ?_
      have hsome : parse? text = some ⟨bytes, hlength⟩ := parse?_eq_some.mpr htrim
      exact absurd (hparse.symm.trans hsome) nofun
    | some k =>
      refine ⟨by simp, ?_, by simp⟩
      exact iff_of_false nofun fun h => h k.bytes (parse?_eq_some.mp hparse) k.length_eq

/-! ## 3. A file that is made -/

/-- What was written can be kept from everyone but its owner, and it stays what it is. -/
theorem restrictToOwner_of_writeBytes (h : t.writeBytes path bytes = .ok t₁) :
    ∃ t₂, t₁.restrictToOwner path = .ok t₂ ∧ t₂.nodeAt path = .ok (.file bytes 0o600) := by
  obtain ⟨place, hplace, hwritten⟩ := FileTree.rewritten_of_writeBytes h
  obtain ⟨mode, hafter, -⟩ := hwritten.after
  have hplace₁ : t₁.locate path = .ok place := hwritten.locate_iff.mpr hplace
  have hroot : place ≠ [] := by
    rintro rfl
    exact hwritten.before rfl
  have hfound (p : Place) : (t₁.insert place (.file bytes 0o600)).find? p =
      if p = place then some (.file bytes 0o600) else t₁.find? p := FileTree.find?_insert hroot
  -- no directory is at the place of the file, so the path leads there still
  have hkeeps : FileTree.KeepsDirectories t₁ (t₁.insert place (.file bytes 0o600)) := by
    intro p hp
    rw [hfound, if_neg]
    · exact hp
    · rintro rfl
      exact absurd (hafter.symm.trans hp) nofun
  refine ⟨t₁.insert place (.file bytes 0o600), ?_, ?_⟩
  · rw [FileTree.restrictToOwner, hplace₁]
    dsimp only [bind, Except.bind]
    rw [hafter]
  · refine FileTree.nodeAt_eq_ok.mpr ⟨place, hkeeps.locate FileTree.working_insert hplace₁, ?_⟩
    rw [hfound, if_pos rfl]

/-- **What comes of making the file.** Its directory is made and the file is written; if either fails the
call fails with its cause, and otherwise the file holds the fresh key. -/
theorem does_create (t : FileTree) (path : String) (fresh : Key) :
    ∃ outcome t', t.Does (create path fresh) outcome t' ∧
      ((∃ cause, outcome = .error (.file path cause)) ∨
        outcome = .ok fresh ∧ t'.nodeAt path = .ok (.file (Text.Utf8.encode (render fresh)) 0o600)) ∧
      ∀ t₁ t₂, t.Does (Files.makeParent path) (.ok ()) t₁ →
        t₁.writeBytes path (Text.Utf8.encode (render fresh)) = .ok t₂ → outcome = .ok fresh := by
  obtain ⟨made, tp, hparent, -⟩ := FileTree.grows_makeParent path t
  cases made with
  | error e =>
    refine ⟨.error (.file path e), tp, hparent.bind (tp.does_pure _), .inl ⟨e, rfl⟩, fun t₁ t₂ hmade => ?_⟩
    cases (hparent.unique hmade).1
  | ok _ =>
    cases hbytes : tp.writeBytes path (Text.Utf8.encode (render fresh)) with
    | error e =>
      have hwrite : tp.Does (Files.writeText path (render fresh)) (.error e) tp :=
        FileTree.does_update_error hbytes
      refine ⟨.error (.file path e), tp, hparent.bind (hwrite.bind (tp.does_pure _)), .inl ⟨e, rfl⟩,
        fun t₁ t₂ hmade hwritten => ?_⟩
      obtain rfl := (hparent.unique hmade).2
      exact absurd (hbytes.symm.trans hwritten) nofun
    | ok t₁ =>
      obtain ⟨t₂, hrestrict, hnode⟩ := restrictToOwner_of_writeBytes hbytes
      have hwrite : tp.Does (Files.writeText path (render fresh)) (.ok ()) t₁ :=
        FileTree.does_update_ok hbytes
      have hown : t₁.Does (MonadFiles.restrictToOwner path) (.ok ()) t₂ :=
        FileTree.does_update_ok hrestrict
      exact ⟨.ok fresh, t₂, hparent.bind (hwrite.bind (hown.bind (t₂.does_pure _))), .inr ⟨rfl, hnode⟩,
        fun _ _ _ _ => rfl⟩

theorem keyAt_of_render {mode : Nat}
    (h : t.nodeAt path = .ok (.file (Text.Utf8.encode (render k)) mode)) : keyAt t path = .ok k := by
  refine ((keyAt_cases t path).1 k).mpr ⟨render k, ?_, parse?_eq_some.mp (parse?_render k)⟩
  rw [readText_of_nodeAt h, Text.Utf8.decode_encode]
  rfl

/-! ## 4. One call after another -/

/-- Every call finds this key at the path, whatever key it brings along, and changes nothing. -/
def Holds (t : FileTree) (path : String) (k : Key) : Prop :=
  ∀ fresh, t.Finds (loadOrCreate path fresh) (.ok k)

theorem holds_of_render {mode : Nat}
    (h : t.nodeAt path = .ok (.file (Text.Utf8.encode (render k)) mode)) : Holds t path k := by
  intro fresh
  rw [← keyAt_of_render h]
  exact finds_loadOrCreate (FileTree.kind?_isSome.mpr ⟨_, h⟩) fresh

/-- A call that finds nothing at the path makes the file. -/
theorem does_loadOrCreate_of_none (h : t.kind? path = none) (hcreate : t.Does (create path fresh) outcome t') :
    t.Does (loadOrCreate path fresh) outcome t' := by
  refine (t.finds_pathExists path).does.bind ?_
  rw [h]
  exact hcreate

/-- **A call that succeeds leaves its key to all later ones.** -/
theorem exists_does (t : FileTree) (path : String) (fresh : Key) :
    ∃ outcome t', t.Does (loadOrCreate path fresh) outcome t' ∧ ∀ k, outcome = .ok k → Holds t' path k := by
  cases hkind : t.kind? path with
  | some kind =>
    have h : (t.kind? path).isSome = true := by rw [hkind]; rfl
    exact ⟨_, t, (finds_loadOrCreate h fresh).does, fun k hk other => hk ▸ finds_loadOrCreate h other⟩
  | none =>
    obtain ⟨outcome, t', hdoes, houtcome, -⟩ := does_create t path fresh
    refine ⟨outcome, t', does_loadOrCreate_of_none hkind hdoes, fun k hk => ?_⟩
    rcases houtcome with ⟨cause, rfl⟩ | ⟨rfl, hnode⟩
    · cases hk
    · obtain rfl := Except.ok.inj hk
      exact holds_of_render hnode

theorem Holds.finds_calls (h : Holds t path k) (fresh : List Key) :
    t.Finds (fresh.mapM (loadOrCreate path)) (List.replicate fresh.length (.ok k)) := by
  induction fresh with
  | nil => exact t.finds_pure _
  | cons key rest ih =>
    rw [List.mapM_cons]
    exact (h key).bind (ih.bind (t.finds_pure _))

/-- **Calls for one key.** Until one succeeds they are refused, and from then on they return its key. -/
theorem exists_calls (t : FileTree) (path : String) (fresh : List Key) :
    ∃ (errors : List KeyError) (n : Nat) (k : Key) (t' : FileTree),
      t.Does (fresh.mapM (loadOrCreate path)) (errors.map Except.error ++ List.replicate n (.ok k)) t' ∧
        errors.length + n = fresh.length ∧ (0 < n → Holds t' path k) := by
  induction fresh generalizing t with
  | nil => exact ⟨[], 0, default, t, t.does_pure [], rfl, nofun⟩
  | cons key rest ih =>
    obtain ⟨outcome, t₁, hfirst, hholds⟩ := exists_does t path key
    rw [List.mapM_cons]
    cases outcome with
    | ok k =>
      -- the rest of the run finds the key that this call has left
      have hrest := (hholds k rfl).finds_calls rest
      exact ⟨[], rest.length + 1, k, t₁, hfirst.bind (hrest.does.bind (t₁.does_pure _)),
        Nat.zero_add _, fun _ => hholds k rfl⟩
    | error e =>
      obtain ⟨errors, n, k, t', hrest, hlength, hlast⟩ := ih t₁
      refine ⟨e :: errors, n, k, t', hfirst.bind (hrest.bind (t'.does_pure _)), ?_, hlast⟩
      rw [List.length_cons, List.length_cons, ← hlength, Nat.add_right_comm]

theorem eq_of_mem_outcomes {errors : List KeyError} {n : Nat} {k' : Key}
    (h : Except.ok k' ∈ errors.map Except.error ++ List.replicate n (.ok k)) : k' = k := by
  rcases List.mem_append.mp h with herror | hok
  · obtain ⟨e, -, he⟩ := List.mem_map.mp herror
    cases he
  · exact Except.ok.inj (List.eq_of_mem_replicate hok)

/-- **The key of an installation is created once.** If nothing is at the path and the file can be made, the
call returns the fresh key and leaves it written there, and every later call returns it and changes nothing.
If something is at the path, the call only reads: it returns the key whose written form the file holds,
blanks around it aside, reports a file that holds none, and passes on why a file could not be read. So in a
run of calls the refused ones come first, and all others return one key, hence the same masks. -/
theorem key_file_is_created_once (t : FileTree) (path : String) :
    (∀ fresh t₁ t₂, t.kind? path = none → t.Does (Files.makeParent path) (.ok ()) t₁ →
      t₁.writeBytes path (Text.Utf8.encode (Base64.encodeString fresh.bytes)) = .ok t₂ →
        ∃ t', t.Does (loadOrCreate path fresh) (.ok fresh) t' ∧
          t'.nodeAt path = .ok (.file (Text.Utf8.encode (Base64.encodeString fresh.bytes)) 0o600) ∧
          Holds t' path fresh) ∧
    (∀ fresh, (t.kind? path).isSome = true → ∃ outcome, t.Finds (loadOrCreate path fresh) outcome ∧
      (∀ k, outcome = .ok k ↔
        ∃ text, t.readText path = .ok text ∧ Text.trim text.toList = Base64.encode k.bytes) ∧
      (outcome = .error (.corrupt path) ↔
        ∃ text, t.readText path = .ok text ∧
          ∀ bytes, Text.trim text.toList = Base64.encode bytes → bytes.length ≠ 32) ∧
      ∀ cause, outcome = .error (.file path cause) ↔ t.readText path = .error cause) ∧
    ∀ fresh : List Key, ∃ outcomes t', t.Does (fresh.mapM (loadOrCreate path)) outcomes t' ∧
      (∃ (errors : List KeyError) (n : Nat) (k : Key), errors.length + n = fresh.length ∧
        outcomes = errors.map Except.error ++ List.replicate n (.ok k) ∧ (0 < n → Holds t' path k)) ∧
      ∀ k₁ k₂, .ok k₁ ∈ outcomes → .ok k₂ ∈ outcomes →
        k₁ = k₂ ∧ ∀ value, k₁.mask value = k₂.mask value := by
  refine ⟨fun fresh t₁ t₂ hnone hparent hwrite => ?_, fun fresh h => ?_, fun fresh => ?_⟩
  · obtain ⟨outcome, t', hdoes, hcases, hmade⟩ := does_create t path fresh
    obtain rfl : outcome = .ok fresh := hmade t₁ t₂ hparent hwrite
    rcases hcases with ⟨cause, herror⟩ | ⟨-, hnode⟩
    · cases herror
    · exact ⟨t', does_loadOrCreate_of_none hnone hdoes, hnode, holds_of_render hnode⟩
  · exact ⟨keyAt t path, finds_loadOrCreate h fresh, keyAt_cases t path⟩
  · obtain ⟨errors, n, k, t', hdoes, hlength, hholds⟩ := exists_calls t path fresh
    refine ⟨_, t', hdoes, ⟨errors, n, k, hlength, rfl, hholds⟩, fun k₁ k₂ h₁ h₂ => ?_⟩
    have hkey : k₁ = k₂ := (eq_of_mem_outcomes h₁).trans (eq_of_mem_outcomes h₂).symm
    exact ⟨hkey, fun value => by rw [hkey]⟩

/-- A key is made where nothing was, and a second call gets it; a file of another text is refused. -/
theorem a_key_is_made_and_found_again :
    let path := "/c/anonymize.key"
    let fresh : Key := ⟨List.replicate 32 7, List.length_replicate⟩
    let other : Key := ⟨List.replicate 32 9, List.length_replicate⟩
    let broken : FileTree := { entries := [(["c"], .directory),
      (["c", "anonymize.key"], .file (Text.Utf8.encode "not-a-key") 0o600)] }
    (∃ t', ({} : FileTree).Does (loadOrCreate path fresh) (.ok fresh) t' ∧
      t'.nodeAt path =
        .ok (.file (Text.Utf8.encode "BwcHBwcHBwcHBwcHBwcHBwcHBwcHBwcHBwcHBwcHBwc=") 0o600) ∧
      t'.Finds (loadOrCreate path other) (.ok fresh)) ∧
    broken.Finds (loadOrCreate path fresh) (.error (.corrupt path)) := by
  intro path fresh other broken
  let t₁ : FileTree := { entries := [(["c"], .directory)] }
  let written : List UInt8 := Text.Utf8.encode "BwcHBwcHBwcHBwcHBwcHBwcHBwcHBwcHBwcHBwcHBwc="
  have hwritten : Text.Utf8.encode (Base64.encodeString fresh.bytes) = written := by decide +kernel
  have hmade : ({} : FileTree).Does (Files.makeParent path) (.ok ()) t₁ := by
    obtain ⟨outcome, left, hdoes, -⟩ := FileTree.grows_makeParent path {}
    have hrun : (outcome, left) = (.ok (), t₁) := (congrArg Prod.fst (hdoes {})).symm.trans (by decide +kernel)
    obtain ⟨rfl, rfl⟩ := Prod.mk.inj hrun
    exact hdoes
  have hwrite : t₁.writeBytes path (Text.Utf8.encode (Base64.encodeString fresh.bytes)) =
      .ok (t₁.insert ["c", "anonymize.key"] (.file written 0o644)) := by decide +kernel
  constructor
  · obtain ⟨t', hdoes, hnode, hholds⟩ :=
      (key_file_is_created_once {} path).1 fresh t₁ _ (by decide +kernel) hmade hwrite
    exact ⟨t', hdoes, by rw [hnode, hwritten], hholds other⟩
  · obtain ⟨outcome, hfinds, -, hcorrupt, -⟩ :=
      (key_file_is_created_once broken path).2.1 fresh (by decide +kernel)
    have hread : broken.readText path = .ok "not-a-key" := by decide +kernel
    obtain rfl : outcome = .error (.corrupt path) := by
      refine hcorrupt.mpr ⟨"not-a-key", hread, fun bytes htrim => ?_⟩
      have hdecode : Base64.decode (Text.trim "not-a-key".toList) = none := by decide +kernel
      rw [htrim, Base64.decode_encode] at hdecode
      cases hdecode
    exact hfinds

end KeyFile
end Redaction
end ClusterTriage
