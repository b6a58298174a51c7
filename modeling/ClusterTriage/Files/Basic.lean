import ClusterTriage.Text.Utf8

/-!
# Access to files

What the program asks of a file system, as a class of monads: the same code then runs on a real
machine and on a file tree that is a value. Every request that can fail answers with a cause, and
the wording of a cause is `FileError.message`.
-/

namespace ClusterTriage

/-- Why a file could not be used. -/
inductive FileError where
  | notFound
  | permissionDenied
  | alreadyExists
  | notDirectory
  | isDirectory
  | nameTooLong
  | nulInName
  | notUtf8
  | other (text : String)
deriving DecidableEq, Repr

def FileError.message : FileError → String
  | .notFound => "No such file or directory (os error 2)"
  | .permissionDenied => "Permission denied (os error 13)"
  | .alreadyExists => "File exists (os error 17)"
  | .notDirectory => "Not a directory (os error 20)"
  | .isDirectory => "Is a directory (os error 21)"
  | .nameTooLong => "File name too long (os error 36)"
  | .nulInName => "file name contained an unexpected NUL byte"
  | .notUtf8 => "stream did not contain valid UTF-8"
  | .other text => text

/-- What a path can name. -/
inductive FileKind where
  | regular
  | directory
deriving DecidableEq, Repr

/-- Monads in which files can be read and written. -/
class MonadFiles (m : Type → Type) where
  /-- What the path names, if anything. -/
  kind? : String → m (Option FileKind)
  readBytes : String → m (Except FileError (List UInt8))
  /-- Writes a file, replacing what it held. -/
  writeBytes : String → List UInt8 → m (Except FileError Unit)
  makeDirectory : String → m (Except FileError Unit)
  /-- Takes a file's permissions from everyone but its owner. -/
  restrictToOwner : String → m (Except FileError Unit)

namespace Files

variable {m : Type → Type} [Monad m] [MonadFiles m]

def pathExists (path : String) : m Bool := do
  return (← MonadFiles.kind? path).isSome

def isRegular (path : String) : m Bool := do
  return (← MonadFiles.kind? path) == some .regular

/-- The text of a file, which has to be UTF-8. -/
def readText (path : String) : m (Except FileError String) := do
  match ← MonadFiles.readBytes path with
  | .error e => return .error e
  | .ok bytes => return (Text.Utf8.decode bytes).mapError fun _ => .notUtf8

def writeText (path text : String) : m (Except FileError Unit) :=
  MonadFiles.writeBytes path (Text.Utf8.encode text)

end Files

end ClusterTriage
