import ClusterTriage.Datum.Toml.Parser
import ClusterTriage.Datum.Toml.Printer
import ClusterTriage.Files.Basic
import ClusterTriage.Files.Path
import ClusterTriage.Settings.Coding

/-!
# The settings file

Settings are kept as TOML. The file in effect is the one that was named, else the one in the
working directory, else the one in the home directory. A file that was named has to exist, and a
file in effect has to parse; where there is no file, the defaults are the settings.
-/

namespace ClusterTriage

/-- Why settings could not be read or written. -/
inductive SettingsError where
  | read (path : String) (cause : FileError)
  | undecodable (path : String)
  | write (path : String) (cause : FileError)
  | noHome
deriving DecidableEq, Repr

/-- The sentence for each cause. What exactly is wrong with a text is left open. -/
def SettingsError.message : SettingsError → String
  | .read path cause => s!"Failed to read configuration file {path}: " ++ cause.message
  | .undecodable path => s!"Failed to parse configuration file {path}"
  | .write path cause => s!"Failed to write configuration file {path}: " ++ cause.message
  | .noHome => "Home directory could not be determined"

namespace Settings

def render (s : Settings) : String := Toml.pretty s.toDatum

def parse? (text : String) : Option Settings := do
  Settings.ofDatum? Datum.isEmpty (← Toml.parse text)

namespace File

def name : String := ".kube-doctor.toml"

/-- The settings file in a directory. -/
def inDirectory (dir : String) : String := Path.join dir name

def global (home : Option String) : Option String := home.map inDirectory

variable {m : Type → Type} [Monad m] [MonadFiles m]

def whereExists (path : Option String) : m (Option String) := do
  match path with
  | none => return none
  | some p => if ← Files.pathExists p then return some p else return none

/-- The settings file in effect, if there is one. -/
def inEffect (named dir home : Option String) : m (Option String) := do
  match named with
  | some path => return some path
  | none =>
    match ← whereExists (dir.map inDirectory) with
    | some path => return some path
    | none => whereExists (global home)

def load (path : String) : m (Except SettingsError Settings) := do
  match ← Files.readText path with
  | .error e => return .error (.read path e)
  | .ok text =>
    match parse? text with
    | some s => return .ok s
    | none => return .error (.undecodable path)

/-- The settings in a file, or the defaults where there is none. -/
def loadFrom (file : Option String) : m (Except SettingsError Settings) := do
  match file with
  | some path => load path
  | none => return .ok {}

def loadInEffect (named dir home : Option String) : m (Except SettingsError Settings) := do
  loadFrom (← inEffect named dir home)

def save (s : Settings) (path : String) : m (Except SettingsError Unit) := do
  return (← Files.writeText path s.render).mapError (.write path)

/-- Writes settings to the file in the home directory. -/
def saveGlobal (s : Settings) (home : Option String) : m (Except SettingsError Unit) := do
  match global home with
  | some path => save s path
  | none => return .error .noHome

end File
end Settings
end ClusterTriage
