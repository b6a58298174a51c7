import ClusterTriage.Encoding.Base64
import ClusterTriage.Files.Directories
import ClusterTriage.Redaction.Key
import ClusterTriage.Text.Blank

/-!
# The key file

Each installation keeps its mask key in one file, in base64. The first use creates the file with a
fresh key; every later use reads it and never writes. A file that holds anything but a key is left
as it is and reported.
-/

namespace ClusterTriage
namespace Redaction

inductive KeyError where
  | file (path : String) (cause : FileError)
  | corrupt (path : String)
  | noCacheDirectory
deriving DecidableEq, Repr

def KeyError.message : KeyError → String
  | .file path cause => s!"Failed to access mask key {path}: " ++ cause.message
  | .corrupt path => s!"Mask key {path} is corrupt, delete it to generate a new one"
  | .noCacheDirectory => "cache directory could not be determined"

namespace KeyFile

def name : String := "anonymize.key"

/-- Where the key file lies: in the configured directory, else in the program's part of the user's
cache directory. -/
def path (configured userCache : Option String) : Except KeyError String :=
  match configured, userCache with
  | some dir, _ => .ok (Path.join dir name)
  | none, some dir => .ok (Path.join (Path.join dir "kube-doctor") name)
  | none, none => .error .noCacheDirectory

def render (k : Key) : String := Encoding.Base64.encodeString k.bytes

/-- The key that a text holds, blanks around it aside. -/
def parse? (text : String) : Option Key := do
  Key.ofBytes? (← Encoding.Base64.decode (Text.trim text.toList))

variable {m : Type → Type} [Monad m] [MonadFiles m]

def load (path : String) : m (Except KeyError Key) := do
  match ← Files.readText path with
  | .error e => return .error (.file path e)
  | .ok text =>
    match parse? text with
    | some k => return .ok k
    | none => return .error (.corrupt path)

/-- Writes a fresh key to a new file that only its owner may read. -/
def create (path : String) (fresh : Key) : m (Except KeyError Key) := do
  match ← Files.makeParent path with
  | .error e => return .error (.file path e)
  | .ok () =>
    match ← Files.writeText path (render fresh) with
    | .error e => return .error (.file path e)
    | .ok () =>
      match ← MonadFiles.restrictToOwner path with
      | .error e => return .error (.file path e)
      | .ok () => return .ok fresh

/-- The key at `path`; if nothing is there yet, `fresh` becomes it. -/
def loadOrCreate (path : String) (fresh : Key) : m (Except KeyError Key) := do
  if ← Files.pathExists path then load path else create path fresh

end KeyFile
end Redaction
end ClusterTriage
