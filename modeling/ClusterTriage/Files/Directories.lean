import ClusterTriage.Files.Basic
import ClusterTriage.Files.Path

/-!
# Creating a directory with everything above it

`Files.makeDirectories path` succeeds if afterwards `path` is a directory. Directories that stand
already are left alone, and missing ones are created from the top down.
-/

namespace ClusterTriage
namespace Files

variable {m : Type → Type} [Monad m] [MonadFiles m]

def ensureDirectory (path : String) : m (Except FileError Unit) := do
  match ← MonadFiles.makeDirectory path with
  | .ok () => return .ok ()
  | .error e =>
    if (← MonadFiles.kind? path) == some .directory then return .ok () else return .error e

/-- Creates a directory, its parents first wherever the directory above is missing. Each step up
drops a name, so `depth` need not exceed the number of names. -/
def makeDirectoriesUpTo : (depth : Nat) → String → m (Except FileError Unit)
  | 0, path => ensureDirectory path
  | depth + 1, path => do
    match ← ensureDirectory path with
    | .error .notFound =>
      match Path.parent? path with
      | none => return .error .notFound
      | some "" => ensureDirectory path
      | some above =>
        match ← makeDirectoriesUpTo depth above with
        | .ok () => ensureDirectory path
        | .error e => return .error e
    | outcome => return outcome

def makeDirectories (path : String) : m (Except FileError Unit) :=
  if path = "" then return .ok () else makeDirectoriesUpTo (Path.names path).length path

/-- Creates the directory that a path lies in, with everything above it. -/
def makeParent (path : String) : m (Except FileError Unit) :=
  match Path.parent? path with
  | some dir => makeDirectories dir
  | none => return .ok ()

end Files
end ClusterTriage
