import ClusterTriage.Cache.Configured
import ClusterTriage.Proofs.Cache.Directory
import ClusterTriage.Redaction.KeyFile

/-!
# The configured cache over many runs

A run of the program opens the cache that is configured, puts its requests to it and ends. If the cache is
a directory, the next run finds there what the earlier ones have left.

> **A cache in a directory replies as one in memory that is never closed**
> (`directory_cache_replies_as_memory_cache`), as long as what is stored can be written and the directory
> has no such files at first.

The mask key lies in the same directory. It is none of the cache's files and stays what it is.
-/

namespace ClusterTriage

open Cache (Act Reply mapReplies)

/-! ## 1. Sessions -/

/-- The directory of a cache of files. -/
def CacheSettings.path (s : CacheSettings) (userCache : Option String) : Except CacheError String :=
  match s.directory with
  | some dir => .ok dir
  | none => DirectoryCache.inUserCache userCache

namespace Cache

/-- Each list of requests is put to the configured cache by a process of its own: nothing but files
outlives it. -/
def sessions (s : CacheSettings) (userCache : Option String) :
    List (List Act) → OnTree (Except CacheError (List Reply))
  | [] => return .ok []
  | acts :: rest => do
    set ({} : MemoryCache)
    match ofSettings s false userCache with
    | .error e => return .error e
    | .ok c =>
      let here ← c.replies acts
      let later ← sessions s userCache rest
      return later.map (here ++ ·)

/-- What comes of sessions that start on a tree. -/
def onFiles (s : CacheSettings) (userCache : Option String) (all : List (List Act)) (t : FileTree) :
    Except CacheError (List Reply) × FileTree :=
  (((sessions s userCache all).run t).run {}).1

/-- What an empty cache in memory replies. -/
def inMemory (acts : List Act) : List Reply :=
  (((MemoryCache.onTree.replies acts).run {}).run {}).1.1

end Cache

open FileTree (cacheIn)

variable {s : CacheSettings} {userCache : Option String} {dir : String} {t t' : FileTree}
  {replies : List Reply}

/-- Settings for files open the directory, on or off. -/
theorem Cache.ofSettings_directory (hkind : s.kind = .file) (hdir : s.path userCache = .ok dir)
    (disabled : Bool) : Cache.ofSettings s disabled userCache =
      .ok (({ directory := dir, disabled } : DirectoryCache).cache : Cache OnTree) := by
  rw [CacheSettings.path] at hdir
  rw [Cache.ofSettings, hkind]
  cases hdirectory : s.directory with
  | some d =>
    rw [hdirectory] at hdir
    obtain rfl := Except.ok.inj hdir
    rfl
  | none =>
    rw [hdirectory] at hdir
    dsimp only at hdir ⊢
    rw [hdir]
    rfl

theorem Cache.ofSettings_eq (hkind : s.kind = .file) (hdir : s.path userCache = .ok dir) :
    Cache.ofSettings s false userCache = .ok (cacheIn dir) :=
  Cache.ofSettings_directory hkind hdir false

theorem Redaction.KeyFile.path_eq (hdir : s.path userCache = .ok dir) :
    KeyFile.path s.directory userCache = .ok (Path.join dir KeyFile.name) := by
  rw [CacheSettings.path] at hdir
  cases hdirectory : s.directory with
  | some d =>
    rw [hdirectory] at hdir
    obtain rfl := Except.ok.inj hdir
    rfl
  | none =>
    rw [hdirectory] at hdir
    cases userCache with
    | none => cases hdir
    | some above =>
      obtain rfl := Except.ok.inj hdir
      rfl

/-- Opening the cache anew changes nothing. -/
theorem run_sessions (hcache : Cache.ofSettings s false userCache = .ok (cacheIn dir))
    {all : List (List Act)} (hdoes : t.Does ((cacheIn dir).replies all.flatten) replies t')
    (mc : MemoryCache) : (((Cache.sessions s userCache all).run t).run mc).1 = (.ok replies, t') := by
  induction all generalizing t replies mc with
  | nil =>
    obtain ⟨rfl, rfl⟩ := hdoes.unique (FileTree.does_pure t _)
    rfl
  | cons acts rest ih =>
    obtain ⟨here, t₁, hhere, -⟩ := FileTree.spared_replies t dir acts
    obtain ⟨later, t₂, hlater, -⟩ := FileTree.spared_replies t₁ dir rest.flatten
    obtain ⟨rfl, rfl⟩ := hdoes.unique (FileTree.does_replies_append hhere hlater)
    -- whatever is configured, it is the same cache each time
    have hset : ((set ({} : MemoryCache) : OnTree PUnit).run t).run mc = (((), t), {}) := rfl
    rw [Cache.sessions, OnTree.run_bind hset, hcache]
    dsimp only
    rw [OnTree.run_bind (hhere {})]
    have hrest : ((Cache.sessions s userCache rest).run t₁).run {} =
        ((.ok later, t'), (((Cache.sessions s userCache rest).run t₁).run {}).2) :=
      Prod.ext (ih hlater {}) rfl
    rw [OnTree.run_bind hrest]
    rfl

theorem Redaction.KeyFile.plain_name : Path.Plain KeyFile.name where
  ne_empty := by decide
  no_slash := by decide
  no_nul := by decide
  ne_here := by decide
  ne_above := by decide
  short := by decide

/-! ## 2. One map -/

/-- **A cache in a directory replies as one in memory**, in however many sessions: if every payload is
taken, and if in the directory, once it stands, there was no file for any of the keys. It touches only
files with fingerprints for names, whatever else happens. -/
theorem directory_cache_replies_as_memory_cache (hkind : s.kind = .file)
    (hdir : s.path userCache = .ok dir) (t : FileTree) (all : List (List Act)) :
    ∃ replies t', Cache.onFiles s userCache all t = (.ok replies, t') ∧
      Cache.onFiles s userCache [all.flatten] t = (.ok replies, t') ∧
      ((∀ r ∈ replies, r.isRefusal = false) →
        (∀ a ∈ all.flatten, (t.made dir).2.kind? (Path.join dir a.key) ≠ some .regular) →
          replies = mapReplies (fun _ => none) all.flatten ∧
          replies = Cache.inMemory all.flatten) ∧
      t.Spared IsFingerprint t' ∧
      ∀ path, Redaction.KeyFile.path s.directory userCache = .ok path →
        ∀ node, t.nodeAt path = .ok node → t'.nodeAt path = .ok node := by
  have hcache := Cache.ofSettings_eq hkind hdir
  obtain ⟨replies, t', hdoes, hspared⟩ := FileTree.spared_replies t dir all.flatten
  have honce : t.Does ((cacheIn dir).replies [all.flatten].flatten) replies t' := by
    rwa [List.flatten_singleton]
  refine ⟨replies, t', run_sessions hcache hdoes {}, run_sessions hcache honce {}, ?_, hspared, ?_⟩
  · intro hreplies hfiles
    have hholds : t.Holds dir (all.flatten.map Act.request) fun _ => none := by
      refine .vacant (fun _ _ => rfl) fun r hr => ?_
      obtain ⟨a, ha, rfl⟩ := List.mem_map.mp hr
      exact hfiles a ha
    have hmap := hholds.replies_eq (fun a ha => List.mem_map_of_mem ha) hdoes hreplies
    obtain ⟨mc, hmemory⟩ := MemoryCache.run_replies all.flatten {} {}
    have hinMemory : Cache.inMemory all.flatten = mapReplies (fun _ => none) all.flatten :=
      congrArg (·.1.1) hmemory
    exact ⟨hmap, hmap.trans hinMemory.symm⟩
  · intro path hpath node hnode
    obtain rfl := Except.ok.inj ((Redaction.KeyFile.path_eq hdir).symm.trans hpath)
    obtain ⟨p, hp, -⟩ := FileTree.nodeAt_eq_ok.mp hnode
    obtain ⟨d, rfl, -⟩ := FileTree.exists_entries Redaction.KeyFile.plain_name hp
    refine hspared.nodeAt hp (fun name hname hfingerprint => ?_) hnode
    rw [List.getLast?_concat] at hname
    exact hfingerprint.ne_of_length (by decide) (Option.some.inj hname).symm

/-- Two runs, the first of which stores a payload beside a key file. -/
theorem directory_cache_beside_a_key_file :
    let s : CacheSettings := { kind := .file }
    let key : FileNode := .file (Text.Utf8.encode "AAAA") 0o600
    let t : FileTree :=
      { entries := [(["cache"], .directory), (["cache", "kube-doctor"], .directory),
          (["cache", "kube-doctor", "anonymize.key"], key)] }
    let pod : Request := ⟨"noop", "english", "pod is failing"⟩
    let all : List (List Act) := [[.load pod, .store pod "cG9k"], [.contains pod, .load pod]]
    let replies : List Reply :=
      [.loaded (.error (.notFound pod.key)), .stored (.ok ()), .contained true, .loaded (.ok "cG9k")]
    s.path (some "/cache") = .ok "/cache/kube-doctor" ∧
      ∃ t', Cache.onFiles s (some "/cache") all t = (.ok replies, t') ∧
        replies = Cache.inMemory all.flatten ∧
        t'.nodeAt "/cache/kube-doctor/anonymize.key" = .ok key := by
  intro s key t pod all replies
  have hdir : s.path (some "/cache") = .ok "/cache/kube-doctor" := by decide +kernel
  have hrun : (Cache.onFiles s (some "/cache") all t).1 = .ok replies := by decide +kernel
  have hfiles : ∀ a ∈ all.flatten, (t.made "/cache/kube-doctor").2.kind?
      (Path.join "/cache/kube-doctor" a.key) ≠ some .regular := by decide +kernel
  have hkeyPath : Redaction.KeyFile.path s.directory (some "/cache") =
      .ok "/cache/kube-doctor/anonymize.key" := by decide +kernel
  have hkey : t.nodeAt "/cache/kube-doctor/anonymize.key" = .ok key := by decide +kernel
  obtain ⟨found, t', honFiles, -, hmap, -, hspared⟩ :=
    directory_cache_replies_as_memory_cache rfl hdir t all
  have hfound : found = replies := by
    rw [honFiles] at hrun
    exact Except.ok.inj hrun
  have hreplies : ∀ r ∈ found, r.isRefusal = false := by
    rw [hfound]
    decide
  have hmemory := (hmap hreplies hfiles).2
  rw [hfound] at honFiles hmemory
  exact ⟨hdir, t', honFiles, hmemory, hspared _ hkeyPath key hkey⟩

end ClusterTriage
