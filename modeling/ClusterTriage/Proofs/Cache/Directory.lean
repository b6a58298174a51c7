import ClusterTriage.Cache.Directory
import ClusterTriage.Proofs.Cache.Map
import ClusterTriage.Proofs.Files.Directories
import ClusterTriage.Proofs.Files.Path
import ClusterTriage.Proofs.Text.Utf8

/-!
# A cache in a directory is a map as well

A cache in a directory has nothing in memory: every request looks for the directory anew, and the first
one that stores a payload may have to create it. What stays the same between two requests is that some
files show what a map has (`FileTree.Holds`).

> **A cache in a directory replies as a map**, as long as what is stored can be written
> (`Holds.replies_eq`).

The directory is not the cache's alone. All names that the cache writes are fingerprints, so every other
file is spared, whether or not anything can be written (`spared_replies`).
-/

namespace ClusterTriage

open Cache (Act Reply found mapReplies)

/-! ## 1. Fingerprints as names -/

theorem utf8ByteSize_ofList_of_digits {cs : List Char} (h : ∀ c ∈ cs, c ∈ Encoding.Hex.digits) :
    (String.ofList cs).utf8ByteSize = cs.length := by
  have hdigits : (Encoding.Hex.digits.all fun c => c.utf8Size == 1) = true := by decide +kernel
  induction cs with
  | nil => rfl
  | cons c cs ih =>
    obtain ⟨hc, hcs⟩ := List.forall_mem_cons.mp h
    have hsize : c.utf8Size = 1 := beq_iff_eq.mp (List.all_eq_true.mp hdigits c hc)
    rw [String.ofList_cons, String.utf8ByteSize_append, String.utf8ByteSize_singleton, hsize, ih hcs,
      List.length_cons, Nat.add_comm]

namespace IsFingerprint

variable {name : String}

theorem ne_of_length (h : IsFingerprint name) {other : String} (hother : other.toList.length ≠ 64) :
    name ≠ other := by
  rintro rfl
  exact hother h.1

theorem utf8ByteSize_eq (h : IsFingerprint name) : name.utf8ByteSize = 64 := by
  rw [← h.1, ← utf8ByteSize_ofList_of_digits h.2, String.ofList_toList]

theorem plain (h : IsFingerprint name) : Path.Plain name where
  ne_empty := h.ne_of_length (by decide)
  no_slash hslash := absurd (h.2 _ hslash) (by decide)
  no_nul hnul := absurd (h.2 _ hnul) (by decide)
  ne_here := h.ne_of_length (by decide)
  ne_above := h.ne_of_length (by decide)
  short := by
    rw [h.utf8ByteSize_eq]
    decide

end IsFingerprint

namespace FileTree

variable {t t₁ t' : FileTree} {p d : Place} {dir key : String} {view : String → Option String}
  {requests : List Request} {a : Act} {acts : List Act} {reply : Reply} {replies : List Reply}

/-! ## 2. One request -/

/-- What the file of a key gives. -/
def loadFrom (t : FileTree) (dir key : String) : Except CacheError String :=
  if t.kind? (Path.join dir key) == some .regular then
    (t.readText (Path.join dir key)).mapError .file
  else .error (.notFound key)

theorem finds_load (t : FileTree) (dir key : String) :
    t.Finds (DirectoryCache.load { directory := dir } key) (t.loadFrom dir key) := by
  rw [DirectoryCache.load, loadFrom]
  refine (finds_isRegular t (Path.join dir key)).bind ?_
  split
  · exact (finds_readText t (Path.join dir key)).bind (finds_pure t _)
  · exact finds_pure t _

theorem loadFrom_eq_notFound_iff : t.loadFrom dir key = .error (.notFound key) ↔
    t.kind? (Path.join dir key) ≠ some .regular := by
  rw [loadFrom]
  by_cases hkind : t.kind? (Path.join dir key) = some .regular
  · rw [if_pos (beq_iff_eq.mpr hkind)]
    refine iff_of_false (fun hload => ?_) (not_not_intro hkind)
    -- a file that cannot be read is another error
    cases htext : t.readText (Path.join dir key) with
    | error e =>
      rw [htext] at hload
      cases hload
    | ok text =>
      rw [htext] at hload
      cases hload
  · rw [if_neg (mt beq_iff_eq.mp hkind)]
    exact iff_of_true rfl hkind

/-- Storing creates the directory and writes one file in it; either can fail. -/
theorem does_store (t : FileTree) (dir key data : String) :
    ∃ outcome t', t.Does (DirectoryCache.store { directory := dir } key data) outcome t' ∧
      (t' = (t.made dir).2 ∧ outcome ≠ .ok () ∨ outcome = .ok () ∧
        (t.made dir).2.writeBytes (Path.join dir key) (Text.Utf8.encode data) = .ok t') := by
  obtain ⟨hmade, -⟩ := t.does_makeDirectories dir
  rw [DirectoryCache.store]
  cases houtcome : (t.made dir).1 with
  | error e =>
    rw [houtcome] at hmade
    exact ⟨.error (.file e), _, hmade.bind (does_pure _ _), .inl ⟨rfl, nofun⟩⟩
  | ok _ =>
    rw [houtcome] at hmade
    have hwrite := does_update (t.made dir).2
      (·.writeBytes (Path.join dir key) (Text.Utf8.encode data))
    cases hoc : (t.made dir).2.writeBytes (Path.join dir key) (Text.Utf8.encode data) with
    | error e =>
      rw [hoc] at hwrite
      exact ⟨.error (.file e), _, hmade.bind (hwrite.bind (does_pure _ _)), .inl ⟨rfl, nofun⟩⟩
    | ok t' =>
      rw [hoc] at hwrite
      exact ⟨.ok (), t', hmade.bind (hwrite.bind (does_pure _ _)), .inr ⟨rfl, rfl⟩⟩

/-- A cache in a directory, as programs on a file tree have it. -/
def cacheIn (dir : String) : Cache OnTree := ({ directory := dir } : DirectoryCache).cache

/-- What is written for a key is the file of its name, in the directory of all keys. -/
theorem rewritten_of_store {bytes : List UInt8} (hkey : IsFingerprint key)
    (h : t.writeBytes (Path.join dir key) bytes = .ok t') :
    ∃ d, t.Entries dir 64 d ∧ t.Rewritten (d ++ [key]) bytes t' := by
  obtain ⟨p, hp, hwritten⟩ := rewritten_of_writeBytes h
  obtain ⟨d, rfl, hd⟩ := exists_entries hkey.plain hp
  exact ⟨d, hkey.utf8ByteSize_eq ▸ hd, hwritten⟩

/-- **No request touches a file whose name is not a fingerprint.** -/
theorem spared_ask (t : FileTree) (dir : String) (a : Act) :
    ∃ reply t', t.Does (a.ask (cacheIn dir)) reply t' ∧ Spared IsFingerprint t t' := by
  cases a with
  | contains r =>
    have hcontains := finds_isRegular t (Path.join dir r.key)
    exact ⟨_, t, hcontains.does.bind (does_pure t _), .refl _ t⟩
  | load r =>
    exact ⟨_, t, (finds_load t dir r.key).does.bind (does_pure t _), .refl _ t⟩
  | store r data =>
    obtain ⟨-, hgrown⟩ := t.does_makeDirectories dir
    obtain ⟨outcome, t', hstore, hend⟩ := does_store t dir r.key data
    refine ⟨_, t', hstore.bind (does_pure t' _), ?_⟩
    rcases hend with ⟨rfl, -⟩ | ⟨-, hwrite⟩
    · exact hgrown.spared IsFingerprint
    · obtain ⟨d, -, hwritten⟩ := rewritten_of_store r.isFingerprint_key hwrite
      refine (hgrown.spared IsFingerprint).trans (hwritten.spared ⟨r.key, ?_, r.isFingerprint_key⟩)
      rw [List.getLast?_concat]
      rfl

/-! ## 3. Files as a map -/

/-- At a place stands the file of a payload, or no file. -/
def Shows (t : FileTree) (p : Place) : Option String → Prop
  | some data => ∃ mode, t.find? p = some (.file (Text.Utf8.encode data) mode)
  | none => ∀ bytes mode, t.find? p ≠ some (.file bytes mode)

/-- A directory holds what a map has under the keys of some requests. -/
inductive Holds (t : FileTree) (dir : String) (requests : List Request)
    (view : String → Option String) : Prop where
  /-- Nothing was stored yet, and none of the files will be there once the directory is. -/
  | vacant (hview : ∀ r ∈ requests, view r.key = none)
      (hfiles : ∀ r ∈ requests, (t.made dir).2.kind? (Path.join dir r.key) ≠ some .regular)
  /-- The directory stands, with the files of the map in it. -/
  | standing (d : Place) (hd : t.Entries dir 64 d)
      (hfiles : ∀ r ∈ requests, t.Shows (d ++ [r.key]) (view r.key))

namespace Entries

theorem locate (hd : t.Entries dir 64 d) (r : Request) :
    t.locate (Path.join dir r.key) = .ok (d ++ [r.key]) :=
  hd r.key r.isFingerprint_key.plain r.isFingerprint_key.utf8ByteSize_eq

theorem unique {d' : Place} (h : t.Entries dir 64 d) (h' : t.Entries dir 64 d') (r : Request) :
    d = d' :=
  (List.append_inj' (Except.ok.inj ((h.locate r).symm.trans (h'.locate r))) rfl).1

end Entries

theorem Shows.congr {payload : Option String} (h : t.Shows p payload)
    (hfiles : ∀ bytes mode, t'.find? p = some (.file bytes mode) ↔ t.find? p = some (.file bytes mode)) :
    t'.Shows p payload := by
  cases payload with
  | none => exact fun bytes mode hfind => h bytes mode ((hfiles bytes mode).mp hfind)
  | some data =>
    obtain ⟨mode, hfind⟩ := h
    exact ⟨mode, (hfiles _ mode).mpr hfind⟩

theorem Shows.loadFrom_eq {r : Request} (hd : t.Entries dir 64 d)
    (h : t.Shows (d ++ [r.key]) (view r.key)) : t.loadFrom dir r.key = found view r.key := by
  have hlocate := hd.locate r
  rw [found]
  cases hview : view r.key with
  | none =>
    rw [hview] at h
    refine loadFrom_eq_notFound_iff.mpr fun hkind => ?_
    obtain ⟨p, bytes, mode, hp, hfind⟩ := kind?_eq_regular.mp hkind
    obtain rfl := Except.ok.inj (hlocate.symm.trans hp)
    exact h bytes mode hfind
  | some data =>
    rw [hview] at h
    obtain ⟨mode, hfind⟩ := h
    have hkind := kind?_eq_regular.mpr ⟨_, _, mode, hlocate, hfind⟩
    have hnode : t.nodeAt (Path.join dir r.key) = .ok (.file (Text.Utf8.encode data) mode) :=
      nodeAt_eq_ok.mpr ⟨_, hlocate, hfind⟩
    rw [loadFrom, if_pos (beq_iff_eq.mpr hkind), readText, readBytes, hnode]
    show ((Text.Utf8.decode (Text.Utf8.encode data)).mapError _).mapError _ = _
    rw [Text.Utf8.decode_encode]
    rfl

theorem Holds.loadFrom_eq (h : t.Holds dir requests view) {r : Request} (hr : r ∈ requests) :
    t.loadFrom dir r.key = found view r.key := by
  cases h with
  | vacant hview hfiles =>
    rw [found, hview r hr]
    -- a file that is there now would still be there
    obtain ⟨-, hgrown⟩ := t.does_makeDirectories dir
    exact loadFrom_eq_notFound_iff.mpr fun hkind => hfiles r hr (hgrown.kind?_eq_regular hkind)
  | standing d hd hfiles => exact (hfiles r hr).loadFrom_eq hd

theorem Holds.isRegular_eq (h : t.Holds dir requests view) {r : Request} (hr : r ∈ requests) :
    (t.kind? (Path.join dir r.key) == some .regular) = (view r.key).isSome := by
  have hload := h.loadFrom_eq hr
  rw [found] at hload
  cases hview : view r.key with
  | none =>
    rw [hview] at hload
    exact beq_eq_false_iff_ne.mpr (loadFrom_eq_notFound_iff.mp hload)
  | some data =>
    rw [hview] at hload
    refine beq_iff_eq.mpr (by_contra fun hkind => ?_)
    exact absurd (hload.symm.trans (loadFrom_eq_notFound_iff.mpr hkind)) nofun

/-- Storing a payload is storing it in the map. -/
theorem Holds.store (h : t.Holds dir requests view) {r : Request} {data : String}
    (hwrite : (t.made dir).2.writeBytes (Path.join dir r.key) (Text.Utf8.encode data) = .ok t') :
    t'.Holds dir requests (Function.update view r.key (some data)) := by
  obtain ⟨-, hgrown⟩ := t.does_makeDirectories dir
  obtain ⟨d, hd, hwritten⟩ := rewritten_of_store r.isFingerprint_key hwrite
  -- the directory stands, and but for the new file it shows what it showed
  have hshown : ∀ q ∈ requests, (t.made dir).2.Shows (d ++ [q.key]) (view q.key) := by
    intro q hq
    cases h with
    | vacant hview hfiles =>
      rw [hview q hq]
      intro bytes mode hfind
      exact hfiles q hq (kind?_eq_regular.mpr ⟨_, bytes, mode, hd.locate q, hfind⟩)
    | standing d₀ hd₀ hfiles =>
      have hstill := hgrown.keepsDirectories.entries hgrown.working hd₀
      obtain rfl := hstill.unique hd q
      exact (hfiles q hq).congr fun _ _ => hgrown.file_iff
  refine .standing d (hwritten.sameDirectories.keeps.entries hwritten.working hd) fun q hq => ?_
  by_cases hkey : q.key = r.key
  · obtain ⟨mode, hafter, -⟩ := hwritten.after
    rw [hkey, Function.update_self]
    exact ⟨mode, hafter⟩
  · rw [Function.update_of_ne hkey]
    refine (hshown q hq).congr fun bytes mode => ?_
    rw [hwritten.elsewhere (d ++ [q.key]) (by simpa using hkey)]

/-- **One request is replied to as by the map**, which it leaves as the map is left. -/
theorem Holds.ask (h : t.Holds dir requests view) (ha : a.request ∈ requests)
    (hdoes : t.Does (a.ask (cacheIn dir)) reply t') (hreply : reply.isRefusal = false) :
    reply = a.reply view ∧ t'.Holds dir requests (a.after view) := by
  cases a with
  | contains r =>
    have hcontains := finds_isRegular t (Path.join dir r.key)
    obtain ⟨rfl, rfl⟩ := hdoes.unique (hcontains.does.bind (does_pure t _))
    exact ⟨congrArg Reply.contained (h.isRegular_eq ha), h⟩
  | load r =>
    obtain ⟨rfl, rfl⟩ := hdoes.unique ((finds_load t dir r.key).does.bind (does_pure t _))
    exact ⟨congrArg Reply.loaded (h.loadFrom_eq ha), h⟩
  | store r data =>
    obtain ⟨outcome, t₁, hstore, hend⟩ := does_store t dir r.key data
    obtain ⟨rfl, rfl⟩ := hdoes.unique (hstore.bind (does_pure t₁ _))
    rcases hend with ⟨-, hfailed⟩ | ⟨rfl, hwrite⟩
    · cases outcome with
      | error e => cases hreply
      | ok _ => exact absurd rfl hfailed
    · exact ⟨rfl, h.store hwrite⟩

/-! ## 4. Many requests -/

theorem spared_replies (t : FileTree) (dir : String) (acts : List Act) :
    ∃ replies t', t.Does ((cacheIn dir).replies acts) replies t' ∧ Spared IsFingerprint t t' := by
  induction acts generalizing t with
  | nil => exact ⟨[], t, does_pure t _, .refl _ t⟩
  | cons a rest ih =>
    obtain ⟨first, t₁, hask, hspared⟩ := spared_ask t dir a
    obtain ⟨later, t₂, hrest, hspared'⟩ := ih t₁
    exact ⟨first :: later, t₂, hask.bind (hrest.bind (does_pure t₂ _)), hspared.trans hspared'⟩

/-- Requests are served one after another. -/
theorem Does.replies_cons (hdoes : t.Does ((cacheIn dir).replies (a :: acts)) replies t') :
    ∃ first t₁ later, replies = first :: later ∧ t.Does (a.ask (cacheIn dir)) first t₁ ∧
      t₁.Does ((cacheIn dir).replies acts) later t' := by
  obtain ⟨first, t₁, hask, -⟩ := spared_ask t dir a
  obtain ⟨later, t₂, hlater, -⟩ := spared_replies t₁ dir acts
  obtain ⟨rfl, rfl⟩ := hdoes.unique (hask.bind (hlater.bind (does_pure t₂ _)))
  exact ⟨first, t₁, later, rfl, hask, hlater⟩

/-- **Any number of requests is replied to as by the map**, unless one of them is refused. -/
theorem Holds.replies_eq (h : t.Holds dir requests view) (hacts : ∀ a ∈ acts, a.request ∈ requests)
    (hdoes : t.Does ((cacheIn dir).replies acts) replies t')
    (hreplies : ∀ r ∈ replies, r.isRefusal = false) : replies = mapReplies view acts := by
  induction acts generalizing t view replies with
  | nil => exact (hdoes.unique (does_pure t _)).1
  | cons a rest ih =>
    obtain ⟨ha, hrest⟩ := List.forall_mem_cons.mp hacts
    obtain ⟨first, t₁, later, rfl, hask, hlater⟩ := hdoes.replies_cons
    obtain ⟨hfirst, hothers⟩ := List.forall_mem_cons.mp hreplies
    obtain ⟨rfl, h₁⟩ := h.ask ha hask hfirst
    rw [mapReplies, ← ih h₁ hrest hlater hothers]

theorem does_replies_append {more : List Act} {later : List Reply}
    (hdoes : t.Does ((cacheIn dir).replies acts) replies t₁)
    (hmore : t₁.Does ((cacheIn dir).replies more) later t') :
    t.Does ((cacheIn dir).replies (acts ++ more)) (replies ++ later) t' := by
  induction acts generalizing t replies with
  | nil =>
    obtain ⟨rfl, rfl⟩ := hdoes.unique (does_pure t _)
    exact hmore
  | cons a rest ih =>
    obtain ⟨first, t₂, others, rfl, hask, hothers⟩ := hdoes.replies_cons
    exact hask.bind ((ih hothers).bind (does_pure t' _))

end FileTree
end ClusterTriage
