import ClusterTriage.Cache.Directory
import ClusterTriage.Cache.Memory
import ClusterTriage.Settings.Basic

/-!
# The configured cache

Settings say which kind of cache is used, and where it lies if it is a directory; without a word on
that, it lies in the user's cache directory.
-/

namespace ClusterTriage

variable {m : Type → Type} [Monad m] [MonadFiles m] [MonadStateOf MemoryCache m]

/-- The cache that settings ask for. -/
def Cache.ofSettings (s : CacheSettings) (disabled : Bool) (userCache : Option String) :
    Except CacheError (Cache m) :=
  match s.kind with
  | .memory => .ok (MemoryCache.cache disabled)
  | .file =>
    match s.directory with
    | some directory => .ok ({ directory, disabled } : DirectoryCache).cache
    | none =>
      (DirectoryCache.inUserCache userCache).map fun directory =>
        ({ directory, disabled } : DirectoryCache).cache

end ClusterTriage
