/-!
# What stands in the way of a command

A command line names a command, or asks for help or for the version, or is faulty. Everything that
is not a command is a cause here, with the exit code that it leads to.
-/

namespace ClusterTriage
namespace CommandLine

/-- Why a command line names no command. -/
inductive Fault where
  | help
  | version
  /-- Nothing was given where a command is needed. -/
  | nothingGiven
  /-- Options were given, but no command. -/
  | missingCommand
  | unknownCommand (word : String)
  | unknownArgument (word : String)
  /-- An option stands without its value, or with one that it does not allow. -/
  | unusableValue (option value : String)
  /-- The value of an option is no number that it can take. -/
  | malformedNumber (option value : String)
  | repeated (option : String)
  /-- A switch was given a value. -/
  | unwantedValue (option : String)
  | missingNames
deriving DecidableEq, Repr

namespace Fault

/-- Help and the version are answers; everything else is a mistake. -/
def exitCode : Fault → Nat
  | .help => 0
  | .version => 0
  | _ => 2

/-- How the program names itself. -/
def versionText : String := "kube-doctor 0.1.0\n"

def message : Fault → String
  | .help => "see the usage"
  | .version => versionText
  | .nothingGiven => "a command is needed"
  | .missingCommand => "a command is needed after the options"
  | .unknownCommand word => s!"unrecognized command '{word}'"
  | .unknownArgument word => s!"unexpected argument '{word}'"
  | .unusableValue option "" => s!"option '{option}' needs a value"
  | .unusableValue option value => s!"'{value}' is no value for option '{option}'"
  | .malformedNumber option value => s!"'{value}' is no number for option '{option}'"
  | .repeated option => s!"option '{option}' cannot be used twice"
  | .unwantedValue option => s!"option '{option}' takes no value"
  | .missingNames => "at least one name is needed"

end Fault

def usage : String := "Usage: kube-doctor [OPTIONS] <COMMAND>

Commands:
  analyze         Analyze the cluster and report problems
  filters list    List available analyzers and which ones are active
  filters add     Add analyzers to the active filters
  filters remove  Remove analyzers from the active filters

Options:
  -c, --config <FILE>  Path to configuration file
  -v, --verbose...     Enable verbose logging
  -q, --quiet          Suppress all output except errors
  -h, --help           Print help
  -V, --version        Print version
"

end CommandLine
end ClusterTriage
