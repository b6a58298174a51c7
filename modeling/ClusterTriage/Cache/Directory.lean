import ClusterTriage.Cache.Basic
import ClusterTriage.Files.Directories

/-!
# The cache in a directory

One file per key, named by the key. The directory is created with the first entry. Switched off, the
cache shows no entry and writes none, though a file that is already there can still be loaded.
-/

namespace ClusterTriage

structure DirectoryCache where
  directory : String
  disabled : Bool := false
deriving DecidableEq, Repr

namespace DirectoryCache

/-- The program's part of the user's cache directory. -/
def inUserCache (userCache : Option String) : Except CacheError String :=
  match userCache with
  | some dir => .ok (Path.join dir "kube-doctor")
  | none => .error .noDirectory

def entryPath (c : DirectoryCache) (key : String) : String := Path.join c.directory key

variable {m : Type → Type} [Monad m] [MonadFiles m]

/-- Whether an entry shows under a key. -/
def contains (c : DirectoryCache) (key : String) : m Bool := do
  if c.disabled then return false else Files.isRegular (c.entryPath key)

def load (c : DirectoryCache) (key : String) : m (Except CacheError String) := do
  let path := c.entryPath key
  if ← Files.isRegular path then
    return (← Files.readText path).mapError .file
  else return .error (.notFound key)

/-- Puts a payload under a key, unless the cache is switched off. -/
def store (c : DirectoryCache) (key data : String) : m (Except CacheError Unit) := do
  if c.disabled then return .ok ()
  match ← Files.makeDirectories c.directory with
  | .error e => return .error (.file e)
  | .ok () => return (← Files.writeText (c.entryPath key) data).mapError .file

/-- The directory as a client sees it. -/
def cache (c : DirectoryCache) : Cache m where
  name := "file"
  disabled := c.disabled
  contains := c.contains
  load := c.load
  store := c.store

end DirectoryCache
end ClusterTriage
