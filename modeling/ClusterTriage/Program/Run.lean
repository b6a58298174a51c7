import ClusterTriage.Program.Analyze
import ClusterTriage.Program.Filters

/-!
# The program

A command line is read, the settings in effect are found, and the command is carried out. The
program ends with a text, or without a command, or with an error.
-/

namespace ClusterTriage

/-- How the program ends. -/
inductive Ending where
  | done (output : String)
  | withoutCommand (fault : CommandLine.Fault)
  | failed (error : ProgramError)
deriving DecidableEq, Repr

namespace Ending

def code : Ending → Nat
  | .done _ => 0
  | .withoutCommand fault => fault.exitCode
  | .failed _ => 1

def output : Ending → String
  | .done text => text
  | .withoutCommand .version => CommandLine.Fault.versionText
  | .withoutCommand .help => CommandLine.usage
  | _ => ""

def complaint : Ending → String
  | .done _ => ""
  | .withoutCommand fault =>
    if fault.exitCode = 0 then "" else "error: " ++ fault.message ++ "\n\n" ++ CommandLine.usage
  | .failed error => "Error: " ++ error.message ++ "\n"

end Ending

namespace Program

variable {m : Type → Type} [Monad m] [MonadFiles m] [MonadStateOf MemoryCache m]

/-- Carries out a command with settings, given the file that they come from. -/
def execute (w : Surroundings m) (s : Settings) (file : Option String) :
    CommandLine.Command → m (Except ProgramError String)
  | .analyze flags => analyze w s flags
  | .filters command => filters w.colour w.home s file command

/-- Carries out an invocation with the settings in effect. -/
def invoke (w : Surroundings m) (i : CommandLine.Invocation) : m (Except ProgramError String) := do
  let file ← Settings.File.inEffect i.config w.workingDirectory w.home
  match ← Settings.File.loadFrom file with
  | .error e => return .error (.settings e)
  | .ok s => execute w s file i.command

def run (w : Surroundings m) (words : List String) : m Ending := do
  match CommandLine.parse words with
  | .error fault => return .withoutCommand fault
  | .ok i =>
    match ← invoke w i with
    | .error e => return .failed e
    | .ok text => return .done text

end Program
end ClusterTriage
