import ClusterTriage.Proofs.Cache.Fingerprint
import ClusterTriage.Proofs.Cache.Lawful
import ClusterTriage.Proofs.Files.Requests
import Mathlib.Control.Monad.Basic

/-!
# A cache as a map

A client puts requests to a cache one after another, each under the key of something that is to be
explained. What a map from keys to payloads replies to them is `Cache.mapReplies`: a payload is there and
can be loaded if one was stored, the one stored last, and storing touches one key.

> **A cache in memory that is switched on replies as a map** (`MemoryCache.run_replies`).
-/

namespace ClusterTriage
namespace Cache

/-- A request to a cache. -/
inductive Act where
  | contains (r : Request)
  | load (r : Request)
  | store (r : Request) (data : String)
deriving DecidableEq

/-- What a cache replies. -/
inductive Reply where
  | contained (there : Bool)
  | loaded (outcome : Except CacheError String)
  | stored (outcome : Except CacheError Unit)
deriving DecidableEq

/-- Whether a payload was not taken. -/
def Reply.isRefusal : Reply → Bool
  | stored (.error _) => true
  | _ => false

/-- What loading from a map comes to. -/
def found (view : String → Option String) (key : String) : Except CacheError String :=
  match view key with
  | some data => .ok data
  | none => .error (.notFound key)

namespace Act

def request : Act → Request
  | contains r => r
  | load r => r
  | store r _ => r

def key (a : Act) : String := a.request.key

def ask {m : Type → Type} [Monad m] (c : Cache m) : Act → m Reply
  | contains r => return .contained (← c.contains r.key)
  | load r => return .loaded (← c.load r.key)
  | store r data => return .stored (← c.store r.key data)

/-- What a map replies. -/
def reply (view : String → Option String) : Act → Reply
  | contains r => .contained (view r.key).isSome
  | load r => .loaded (found view r.key)
  | store _ _ => .stored (.ok ())

/-- What becomes of a map. -/
def after (view : String → Option String) : Act → String → Option String
  | contains _ => view
  | load _ => view
  | store r data => Function.update view r.key (some data)

end Act

/-- The replies to some requests, in their order. -/
def replies {m : Type → Type} [Monad m] (c : Cache m) : List Act → m (List Reply)
  | [] => return []
  | a :: rest => do
    let first ← a.ask c
    let later ← c.replies rest
    return first :: later

/-- The replies of a map to some requests, in their order. -/
def mapReplies (view : String → Option String) : List Act → List Reply
  | [] => []
  | a :: rest => a.reply view :: mapReplies (a.after view) rest

end Cache

/-! ## The cache in memory -/

namespace MemoryCache

open Cache (Act Reply mapReplies)

/-- A cache in memory, as programs on a file tree have it. -/
def onTree : Cache OnTree := MemoryCache.cache false

theorem run_ask (a : Act) (t : FileTree) (mc : MemoryCache) :
    ∃ mc', ((a.ask onTree).run t).run mc = ((a.reply mc.find?, t), mc') ∧
      mc'.find? = a.after mc.find? := by
  cases a with
  | contains r => exact ⟨mc, rfl, rfl⟩
  | load r => exact ⟨mc, rfl, rfl⟩
  | store r data =>
    exact ⟨_, rfl, find?_insert { mc with disabled := false } rfl r.key data⟩

/-- **A cache in memory replies as the map that it holds**, and touches no files. -/
theorem run_replies (acts : List Act) (t : FileTree) (mc : MemoryCache) :
    ∃ mc', ((onTree.replies acts).run t).run mc = ((mapReplies mc.find? acts, t), mc') := by
  induction acts generalizing mc with
  | nil => exact ⟨mc, rfl⟩
  | cons a rest ih =>
    obtain ⟨mc₁, hask, hview⟩ := run_ask a t mc
    obtain ⟨mc₂, hrest⟩ := ih mc₁
    refine ⟨mc₂, ?_⟩
    rw [Cache.replies, OnTree.run_bind hask, OnTree.run_bind hrest, mapReplies, ← hview]
    rfl

end MemoryCache
end ClusterTriage
