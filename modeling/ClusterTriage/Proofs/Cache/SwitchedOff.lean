import ClusterTriage.Proofs.Cache.Sessions

/-!
# A cache that is switched off

Whether a cache is switched off is decided each time it is opened, so one directory is opened now with the
cache on and now with it off. What an opening in between with the cache off can do to the others is said by
leaving it out:

> **A run without the opening goes on as the run with it** (`switched_off_opening_leaves_the_others`): no
> entry is changed and no file is touched, every payload is taken and dropped, and no key shows.

That no key shows is one thing, and that no payload can be loaded is another. A payload that an opening
with the cache on has left in its directory is still loaded while the cache is off
(`a_switched_off_cache_still_loads`). So the replies of a cache that is off are those of an absent one up to
loading, and there they are those of the directory.
-/

namespace ClusterTriage

open Cache (Reply)

/-! ## 1. Openings -/

namespace Cache

/-- What is asked of a cache, under any key. -/
inductive Operation where
  | contains (key : String)
  | load (key : String)
  | store (key data : String)
deriving DecidableEq

namespace Operation

def perform {m : Type → Type} [Monad m] (c : Cache m) : Operation → m Reply
  | contains key => return .contained (← c.contains key)
  | load key => return .loaded (← c.load key)
  | store key data => return .stored (← c.store key data)

/-- The reply of a cache that is switched off, given what is found under a key. -/
def replyOff (found : String → Except CacheError String) : Operation → Reply
  | contains _ => .contained false
  | load key => .loaded (found key)
  | store _ _ => .stored (.ok ())

end Operation

/-- A cache that is opened, on or off, and what is asked of it until it is opened again. -/
structure Opening where
  disabled : Bool
  operations : List Operation

/-- The configured cache is opened again and again. Only files outlive an opening. -/
def openings (s : CacheSettings) (userCache : Option String) :
    List Opening → OnTree (Except CacheError (List (List Reply)))
  | [] => return .ok []
  | o :: rest => do
    set ({} : MemoryCache)
    match ofSettings s o.disabled userCache with
    | .error e => return .error e
    | .ok c =>
      let here ← o.operations.mapM (Operation.perform c)
      let later ← openings s userCache rest
      return later.map (here :: ·)

/-- What comes of openings that start on a tree. -/
def opened (s : CacheSettings) (userCache : Option String) (all : List Opening) (t : FileTree) :
    Except CacheError (List (List Reply)) × FileTree :=
  (((openings s userCache all).run t).run {}).1

end Cache

open Cache (Operation Opening opened openings)

variable {s : CacheSettings} {userCache : Option String} {dir : String} {t t₁ t₂ : FileTree}
  {mc : MemoryCache} {c : Cache OnTree} {o : Opening} {before rest : List Opening}
  {earlier later : List (List Reply)}

/-! ## 2. One opening after another -/

/-- A cache can be opened, on or off. -/
def CacheSettings.Opens (s : CacheSettings) (userCache : Option String) : Prop :=
  ∀ disabled, ∃ c : Cache OnTree, Cache.ofSettings s disabled userCache = .ok c

/-- What an opening finds in memory does not depend on what was there before. -/
theorem openings_run (all : List Opening) (mc : MemoryCache) :
    (((openings s userCache all).run t).run mc).1 = opened s userCache all t := by
  cases all <;> rfl

theorem opened_cons (hcache : Cache.ofSettings s o.disabled userCache = .ok c) :
    opened s userCache (o :: rest) t =
      let here := ((o.operations.mapM (Operation.perform c)).run t).run {}
      let others := opened s userCache rest here.1.2
      (others.1.map (here.1.1 :: ·), others.2) := by
  have hset : ((set ({} : MemoryCache) : OnTree PUnit).run t).run {} = (((), t), {}) := rfl
  obtain ⟨⟨⟨here, t₁⟩, mc₁⟩, hhere⟩ :
      ∃ r, ((o.operations.mapM (Operation.perform c)).run t).run {} = r := ⟨_, rfl⟩
  obtain ⟨⟨⟨others, t₂⟩, mc₂⟩, hothers⟩ :
      ∃ r, ((openings s userCache rest).run t₁).run mc₁ = r := ⟨_, rfl⟩
  have hsame : opened s userCache rest t₁ = (others, t₂) := by
    rw [← openings_run rest mc₁, hothers]
  rw [hhere]
  dsimp only
  rw [hsame, opened, openings, OnTree.run_bind hset, hcache]
  dsimp only
  rw [OnTree.run_bind hhere, OnTree.run_bind hothers]
  rfl

/-- Openings are as good as their cache: if it can be opened, all of them have their replies. -/
theorem exists_opened (h : s.Opens userCache) (all : List Opening) (t : FileTree) :
    ∃ replies t', opened s userCache all t = (.ok replies, t') := by
  induction all generalizing t with
  | nil => exact ⟨[], t, rfl⟩
  | cons o rest ih =>
    obtain ⟨c, hcache⟩ := h o.disabled
    obtain ⟨⟨⟨here, t₁⟩, mc₁⟩, hhere⟩ :
        ∃ r, ((o.operations.mapM (Operation.perform c)).run t).run {} = r := ⟨_, rfl⟩
    obtain ⟨later, t', hrest⟩ := ih t₁
    refine ⟨here :: later, t', ?_⟩
    rw [opened_cons hcache, hhere]
    dsimp only
    rw [hrest]
    rfl

theorem opened_append (h : s.Opens userCache) (hbefore : opened s userCache before t = (.ok earlier, t₁))
    (hrest : opened s userCache rest t₁ = (.ok later, t₂)) :
    opened s userCache (before ++ rest) t = (.ok (earlier ++ later), t₂) := by
  induction before generalizing t earlier with
  | nil =>
    cases hbefore
    exact hrest
  | cons o before ih =>
    obtain ⟨c, hcache⟩ := h o.disabled
    rw [opened_cons hcache] at hbefore
    rw [List.cons_append, opened_cons hcache]
    dsimp only at hbefore ⊢
    obtain ⟨others, t', hothers⟩ :=
      exists_opened h before (((o.operations.mapM (Operation.perform c)).run t).run {}).1.2
    rw [hothers] at hbefore
    cases hbefore
    rw [ih hothers]
    rfl

/-! ## 3. What a cache replies that is off -/

/-- On a tree, and as long as memory keeps something, whatever is asked of a cache gets the reply of one
that is off, and nothing changes. -/
def Cache.Off (c : Cache OnTree) (t : FileTree) (kept : MemoryCache → Prop)
    (found : String → Except CacheError String) : Prop :=
  ∀ (op : Operation) (mc : MemoryCache), kept mc → ∃ mc',
    ((op.perform c).run t).run mc = ((op.replyOff found, t), mc') ∧ kept mc'

variable {kept : MemoryCache → Prop} {found : String → Except CacheError String}

/-- A cache that is off stays off. -/
theorem Cache.Off.mapM (h : c.Off t kept found) (operations : List Operation) (hmc : kept mc) :
    ∃ mc', ((operations.mapM (Operation.perform c)).run t).run mc =
      ((operations.map (·.replyOff found), t), mc') := by
  induction operations generalizing mc with
  | nil => exact ⟨mc, rfl⟩
  | cons op rest ih =>
    obtain ⟨mc₁, hop, hkept⟩ := h op mc hmc
    obtain ⟨mc₂, hrest⟩ := ih hkept
    refine ⟨mc₂, ?_⟩
    rw [List.mapM_cons, OnTree.run_bind hop, OnTree.run_bind hrest]
    rfl

/-- A cache in memory that is off keeps its entries, and lets them be loaded. -/
theorem MemoryCache.off (entries : List (String × String)) (t : FileTree) :
    (MemoryCache.cache true : Cache OnTree).Off t (·.entries = entries)
      ({ entries } : MemoryCache).load := by
  rintro op mc rfl
  cases op with
  | contains key => exact ⟨mc, rfl, rfl⟩
  | load key => exact ⟨mc, rfl, rfl⟩
  | store key data => exact ⟨_, rfl, rfl⟩

/-- A cache in a directory that is off touches no file, and lets those that are there be loaded. -/
theorem DirectoryCache.off (dir : String) (t : FileTree) :
    (({ directory := dir, disabled := true } : DirectoryCache).cache : Cache OnTree).Off t
      (fun _ => True) (t.loadFrom dir) := by
  intro op mc _
  refine ⟨mc, ?_, trivial⟩
  cases op with
  | contains key => rfl
  | load key =>
    have hload : t.Finds (({ directory := dir, disabled := true } : DirectoryCache).load key)
        (t.loadFrom dir key) := t.finds_load dir key
    exact (hload.bind (t.finds_pure (Reply.loaded (t.loadFrom dir key)))) mc
  | store key data => rfl

/-- What can be loaded from the configured cache when it was opened on a tree: from memory nothing, for it
starts empty, and from a directory what is there. -/
def CacheSettings.held (s : CacheSettings) (dir : String) (t : FileTree) (key : String) :
    Except CacheError String :=
  match s.kind with
  | .memory => .error (.notFound key)
  | .file => t.loadFrom dir key

theorem Cache.exists_ofSettings (hdir : s.kind = .file → s.path userCache = .ok dir) (disabled : Bool) :
    ∃ c : Cache OnTree, Cache.ofSettings s disabled userCache = .ok c := by
  cases hkind : s.kind with
  | memory => exact ⟨_, by rw [Cache.ofSettings, hkind]⟩
  | file => exact ⟨_, Cache.ofSettings_directory hkind (hdir hkind) disabled⟩

/-- An opening with the cache off has the replies of a cache that is off, and leaves the tree. -/
theorem opened_off (hdir : s.kind = .file → s.path userCache = .ok dir) (hoff : o.disabled = true)
    (t : FileTree) :
    opened s userCache [o] t = (.ok [o.operations.map (·.replyOff (s.held dir t))], t) := by
  have hopened {c : Cache OnTree} {kept : MemoryCache → Prop}
      (hcache : Cache.ofSettings s true userCache = .ok c) (hc : c.Off t kept (s.held dir t))
      (hempty : kept {}) :
      opened s userCache [o] t = (.ok [o.operations.map (·.replyOff (s.held dir t))], t) := by
    obtain ⟨mc', hall⟩ := hc.mapM o.operations hempty
    rw [opened_cons (hoff ▸ hcache), hall]
    rfl
  cases hkind : s.kind with
  | memory =>
    have hheld : s.held dir t = ({ entries := [] } : MemoryCache).load := by
      funext key
      rw [CacheSettings.held, hkind]
      rfl
    exact @hopened _ (·.entries = []) (by rw [Cache.ofSettings, hkind])
      (hheld ▸ MemoryCache.off [] t) rfl
  | file =>
    have hheld : s.held dir t = t.loadFrom dir := by
      funext key
      rw [CacheSettings.held, hkind]
    exact hopened (Cache.ofSettings_directory hkind (hdir hkind) true)
      (hheld ▸ DirectoryCache.off dir t) trivial

theorem CacheSettings.held_eq_notFound_iff {key : String} : s.held dir t key = .error (.notFound key) ↔
    (s.kind = .file → t.kind? (Path.join dir key) ≠ some .regular) := by
  rw [held]
  cases s.kind with
  | memory => simp
  | file => simpa using FileTree.loadFrom_eq_notFound_iff

/-! ## 4. Leaving it out -/

/-- **A cache that is switched off leaves everything as it is.** However often the configured cache is
opened, and whatever is asked of it: an opening with the cache off shows no key, takes every payload and
changes no file, so that all other openings have the replies, and leave the files, that they have and leave
without it. What it lets be loaded is what is there to be loaded: nothing of a cache in memory, which starts
empty, and of a cache in a directory what stands in its files, so that a key is reported as absent exactly if
no file bears its name. A cache in memory that is switched off with entries in it keeps them. -/
theorem switched_off_opening_leaves_the_others (hdir : s.kind = .file → s.path userCache = .ok dir)
    (before after : List Opening) (o : Opening) (hoff : o.disabled = true) (t : FileTree) :
    (∃ earlier tree later last,
      opened s userCache before t = (.ok earlier, tree) ∧
      opened s userCache [o] tree = (.ok [o.operations.map (·.replyOff (s.held dir tree))], tree) ∧
      opened s userCache (before ++ o :: after) t =
        (.ok (earlier ++ o.operations.map (·.replyOff (s.held dir tree)) :: later), last) ∧
      opened s userCache (before ++ after) t = (.ok (earlier ++ later), last) ∧
      ∀ key, s.held dir tree key = .error (.notFound key) ↔
        (s.kind = .file → tree.kind? (Path.join dir key) ≠ some .regular)) ∧
    ∀ entries, (MemoryCache.cache true : Cache OnTree).Off t (·.entries = entries)
      ({ entries } : MemoryCache).load := by
  refine ⟨?_, fun entries => MemoryCache.off entries t⟩
  have hopens : s.Opens userCache := Cache.exists_ofSettings hdir
  obtain ⟨earlier, tree, hearlier⟩ := exists_opened hopens before t
  obtain ⟨later, last, hlater⟩ := exists_opened hopens after tree
  have hhere := opened_off hdir hoff tree
  refine ⟨earlier, tree, later, last, hearlier, hhere, ?_, opened_append hopens hearlier hlater,
    fun key => CacheSettings.held_eq_notFound_iff⟩
  exact opened_append hopens hearlier (opened_append hopens hhere hlater)

/-- A pod is explained, and then twice more: with the cache off and with it on again. -/
theorem a_switched_off_opening_is_left_out :
    let s : CacheSettings := { kind := .file, directory := some "/cache" }
    let first : Opening := ⟨false, [.contains "pod", .store "pod" "cG9k"]⟩
    let off : Opening := ⟨true, [.contains "pod", .store "pod" "eA==", .load "job"]⟩
    let again : Opening := ⟨false, [.contains "pod", .load "pod"]⟩
    let replies : List Reply := [.contained false, .stored (.ok ()), .loaded (.error (.notFound "job"))]
    off.disabled = true ∧ ∃ earlier later last,
      opened s none [first, off, again] {} = (.ok (earlier ++ replies :: later), last) ∧
      opened s none [first, again] {} = (.ok (earlier ++ later), last) ∧
      earlier ++ later = [[.contained false, .stored (.ok ())], [.contained true, .loaded (.ok "cG9k")]] := by
  intro s first off again replies
  have hdir : s.kind = .file → s.path none = .ok "/cache" := fun _ => rfl
  obtain ⟨⟨earlier, tree, later, last, hearlier, -, hall, hwithout, hheld⟩, -⟩ :=
    switched_off_opening_leaves_the_others hdir [first] [again] off rfl {}
  have htree : tree = (opened s none [first] {}).2 := (congrArg Prod.snd hearlier).symm
  have hjob : s.held "/cache" tree "job" = .error (.notFound "job") := by
    refine (hheld "job").mpr fun _ => ?_
    rw [htree]
    decide +kernel
  have hreplies : off.operations.map (·.replyOff (s.held "/cache" tree)) = replies := by
    show [Reply.contained false, Reply.stored (.ok ()), Reply.loaded (s.held "/cache" tree "job")] = _
    rw [hjob]
  rw [hreplies] at hall
  refine ⟨rfl, earlier, later, last, hall, hwithout, ?_⟩
  have hrun : (opened s none [first, again] {}).1 =
      .ok [[.contained false, .stored (.ok ())], [.contained true, .loaded (.ok "cG9k")]] := by
    decide +kernel
  exact Except.ok.inj ((congrArg Prod.fst hwithout).symm.trans hrun)

/-- Not every load from a cache that is switched off reports its key as absent: an entry that was stored
while the cache was on does not show any more, and is loaded all the same. -/
theorem a_switched_off_cache_still_loads :
    ¬ ∀ (s : CacheSettings) (userCache : Option String) (all : List Opening) (t t' : FileTree)
        (replies : List (List Reply)), opened s userCache all t = (.ok replies, t') →
      ∀ o here, (o, here) ∈ all.zip replies → o.disabled = true →
        ∀ key outcome, (Operation.load key, Reply.loaded outcome) ∈ o.operations.zip here →
          outcome = .error (.notFound key) := by
  intro hall
  let s : CacheSettings := { kind := .file, directory := some "/cache" }
  let on : Opening := ⟨false, [.store "pod" "cG9k"]⟩
  let off : Opening := ⟨true, [.contains "pod", .load "pod"]⟩
  let here : List Reply := [.contained false, .loaded (.ok "cG9k")]
  have hrun : (opened s none [on, off] {}).1 = .ok [[.stored (.ok ())], here] := by decide +kernel
  have habsent := hall s none [on, off] {} _ _ (Prod.ext hrun rfl) off here
    (List.mem_cons_of_mem _ List.mem_cons_self) rfl "pod" (.ok "cG9k")
    (List.mem_cons_of_mem _ List.mem_cons_self)
  cases habsent

end ClusterTriage
