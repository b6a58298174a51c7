import ClusterTriage.Analyzer.Builtin
import ClusterTriage.CommandLine.Command
import ClusterTriage.Program.Error

/-!
# Editing the configured filters

An edit changes the settings in effect and writes them back to where they came from; if there was no
file, the one in the home directory is made. An edit that fails writes nothing.
-/

namespace ClusterTriage
namespace Program

open CommandLine (FilterCommand)

def knownAnalyzers : Registry Unit := (Analyzer.builtin ({} : Context Id)).map fun _ => ()

/-- What an edit comes to: the settings afterwards, and what is said of it. -/
def edit (colour : Bool) (s : Settings) :
    FilterCommand → Except FilterError (Option Settings × String)
  | .list => .ok (none, Filters.list colour s knownAnalyzers)
  | .add names => do
    let (s, added) ← Filters.add s names knownAnalyzers
    let said := if added.isEmpty then "Filters already active: " ++ ", ".intercalate names
      else Text.styled colour [.green] "Filters added:" ++ " " ++ ", ".intercalate added
    return (some s, said ++ "\n")
  | .remove names => do
    let s ← Filters.remove s names knownAnalyzers
    return (some s,
      Text.styled colour [.green] "Filters removed:" ++ " " ++ ", ".intercalate names ++ "\n")

variable {m : Type → Type} [Monad m] [MonadFiles m]

/-- Writes settings back to their file, or to the one in the home directory. -/
def persist (s : Settings) (file home : Option String) : m (Except SettingsError Unit) :=
  match file with
  | some path => Settings.File.save s path
  | none => Settings.File.saveGlobal s home

/-- Shows or edits the filters, given the file that the settings come from. -/
def filters (colour : Bool) (home : Option String) (s : Settings) (file : Option String)
    (c : FilterCommand) : m (Except ProgramError String) := do
  match edit colour s c with
  | .error e => return .error (.filter e)
  | .ok (none, said) => return .ok said
  | .ok (some edited, said) =>
    return ((← persist edited file home).map fun _ => said).mapError .settings

end Program
end ClusterTriage
