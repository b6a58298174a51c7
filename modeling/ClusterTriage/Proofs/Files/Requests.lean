import ClusterTriage.Cache.Memory
import ClusterTriage.Files.Tree

/-!
# Programs on a file tree

A program that uses files runs on a tree as a function from trees to trees. `Does` says what comes of it,
`Finds` says it of a program that changes nothing; both are put together along a program.
-/

namespace ClusterTriage

/-- The monad of programs that use a file tree and a cache in memory. -/
abbrev OnTree := StateT FileTree (StateM MemoryCache)

variable {t t₁ t₂ t' : FileTree} {mc mc₁ : MemoryCache} {α β : Type} {x : OnTree α} {a b : α}

/-! ## 1. Programs -/

/-- The rest of a program runs on what the first part leaves. -/
theorem OnTree.run_bind (hx : (x.run t).run mc = ((a, t₁), mc₁)) (f : α → OnTree β) :
    ((x >>= f).run t).run mc = ((f a).run t₁).run mc₁ := by
  have hbind : ((x >>= f).run t).run mc =
      ((f ((x.run t).run mc).1.1).run ((x.run t).run mc).1.2).run ((x.run t).run mc).2 := rfl
  rw [hbind, hx]

namespace FileTree

/-- On the tree, `x` comes to `a` and leaves `t'`. -/
def Does (t : FileTree) (x : OnTree α) (a : α) (t' : FileTree) : Prop :=
  ∀ mc, (x.run t).run mc = ((a, t'), mc)

/-- On the tree, `x` comes to `a` and changes nothing. -/
def Finds (t : FileTree) (x : OnTree α) (a : α) : Prop := ∀ mc, (x.run t).run mc = ((a, t), mc)

theorem finds_pure (t : FileTree) (a : α) : t.Finds (pure a) a := fun _ => rfl

theorem Finds.does (h : t.Finds x a) : t.Does x a t := h

theorem does_pure (t : FileTree) (a : α) : t.Does (pure a) a t := (finds_pure t a).does

theorem Does.run_bind (hx : t.Does x a t₁) (f : α → OnTree β) (mc : MemoryCache) :
    ((x >>= f).run t).run mc = ((f a).run t₁).run mc := OnTree.run_bind (hx mc) f

theorem Does.bind {f : α → OnTree β} {b : β} (hx : t.Does x a t₁) (hf : t₁.Does (f a) b t₂) :
    t.Does (x >>= f) b t₂ := fun mc => by rw [hx.run_bind, hf mc]

theorem Does.unique (h₁ : t.Does x a t₁) (h₂ : t.Does x b t₂) : a = b ∧ t₁ = t₂ :=
  Prod.mk.inj (congrArg Prod.fst ((h₁ default).symm.trans (h₂ default)))

theorem Finds.run_bind (hx : t.Finds x a) (f : α → OnTree β) (mc : MemoryCache) :
    ((x >>= f).run t).run mc = ((f a).run t).run mc := hx.does.run_bind f mc

theorem Finds.bind {f : α → OnTree β} {b : β} (hx : t.Finds x a) (hf : t.Finds (f a) b) :
    t.Finds (x >>= f) b := hx.does.bind hf.does

theorem Finds.unique (ha : t.Finds x a) (hb : t.Finds x b) : a = b := (ha.does.unique hb.does).1

/-! ## 2. Requests -/

theorem finds_kind? (t : FileTree) (path : String) :
    t.Finds (MonadFiles.kind? path) (t.kind? path) := fun _ => rfl

theorem finds_readBytes (t : FileTree) (path : String) :
    t.Finds (MonadFiles.readBytes path) (t.readBytes path) := fun _ => rfl

/-- A request that changes the tree leaves it as it was if it is refused. -/
theorem does_update (t : FileTree) (request : FileTree → Except FileError FileTree) :
    t.Does (FileTree.update request) ((request t).map fun _ => ())
      ((request t).toOption.getD t) := by
  intro mc
  have hget : ((get : OnTree FileTree).run t).run mc = ((t, t), mc) := rfl
  rw [FileTree.update, OnTree.run_bind hget]
  cases request t with
  | ok t' => rfl
  | error e => rfl

theorem does_update_ok {request : FileTree → Except FileError FileTree} (h : request t = .ok t') :
    t.Does (FileTree.update request) (.ok ()) t' := by
  simpa [h, Except.map, Except.toOption] using does_update t request

theorem does_update_error {request : FileTree → Except FileError FileTree} {e : FileError}
    (h : request t = .error e) : t.Does (FileTree.update request) (.error e) t := by
  simpa [h, Except.map, Except.toOption] using does_update t request

theorem run_writeBytes (t : FileTree) (path : String) (bytes : List UInt8) (mc : MemoryCache) :
    ((MonadFiles.writeBytes path bytes : OnTree _).run t).run mc =
      match t.writeBytes path bytes with
      | .ok t' => ((.ok (), t'), mc)
      | .error e => ((.error e, t), mc) := by
  refine (does_update t (·.writeBytes path bytes) mc).trans ?_
  cases t.writeBytes path bytes with
  | ok t' => rfl
  | error e => rfl

/-! ## 3. Files -/

theorem finds_pathExists (t : FileTree) (path : String) :
    t.Finds (Files.pathExists path) (t.kind? path).isSome :=
  (finds_kind? t path).bind (finds_pure t _)

theorem finds_isRegular (t : FileTree) (path : String) :
    t.Finds (Files.isRegular path) (t.kind? path == some .regular) :=
  (finds_kind? t path).bind (finds_pure t _)

def readText (t : FileTree) (path : String) : Except FileError String :=
  match t.readBytes path with
  | .error e => .error e
  | .ok bytes => (Text.Utf8.decode bytes).mapError fun _ => .notUtf8

theorem finds_readText (t : FileTree) (path : String) :
    t.Finds (Files.readText path) (t.readText path) := by
  refine (finds_readBytes t path).bind ?_
  rw [readText]
  cases t.readBytes path with
  | error e => exact finds_pure t (Except.error e)
  | ok bytes => exact finds_pure t _

end FileTree
end ClusterTriage
