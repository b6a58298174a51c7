import ClusterTriage.Cache.Basic

/-!
# The cache in memory

Entries live as long as the process. A cache that is switched off takes no entries and shows none,
though an entry that is already there can still be loaded.
-/

namespace ClusterTriage

/-- Payloads by key, each key once. -/
structure MemoryCache where
  entries : List (String × String) := []
  disabled : Bool := false
deriving DecidableEq, Repr, Inhabited

namespace MemoryCache

def find? (c : MemoryCache) (key : String) : Option String := c.entries.lookup key

def isEmpty (c : MemoryCache) : Bool := c.entries.isEmpty

def contains (c : MemoryCache) (key : String) : Bool := !c.disabled && (c.find? key).isSome

/-- The payload under a key, or the fact that there is none. -/
def load (c : MemoryCache) (key : String) : Except CacheError String :=
  match c.find? key with
  | some data => .ok data
  | none => .error (.notFound key)

/-- Puts a payload under a key, unless the cache is switched off. -/
def insert (c : MemoryCache) (key data : String) : MemoryCache :=
  if c.disabled then c
  else { c with entries := (key, data) :: c.entries.filter (·.1 != key) }

/-- The cache that a monad holds as its state, as a client sees it. -/
def cache {m : Type → Type} [Monad m] [MonadStateOf MemoryCache m] (disabled : Bool) : Cache m where
  name := "memory"
  disabled := disabled
  contains key := return ({ (← getThe MemoryCache) with disabled }).contains key
  load key := return ({ (← getThe MemoryCache) with disabled }).load key
  store key data := do
    modifyThe MemoryCache fun c => ({ c with disabled }).insert key data
    return .ok ()

end MemoryCache
end ClusterTriage
