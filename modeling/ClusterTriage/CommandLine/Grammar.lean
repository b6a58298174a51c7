import ClusterTriage.CommandLine.Fault
import ClusterTriage.Number.Digits
import ClusterTriage.Text.Substitution

/-!
# Grammars of command lines

A command has options, and either takes commands of its own or takes names or takes nothing else.
What an option takes, and what its values have to be, is data.
-/

namespace ClusterTriage
namespace CommandLine

/-- What the values of an option have to be. -/
inductive ValueRule where
  | text
  /-- A path is not empty. -/
  | path
  | integer
  | oneOf (words : List String)
deriving DecidableEq, Repr

/-- Whether a value follows a rule, and which fault it is if not. -/
def ValueRule.check (rule : ValueRule) (option value : String) : Except Fault Unit :=
  match rule with
  | .text => .ok ()
  | .path => if value = "" then .error (.unusableValue option value) else .ok ()
  | .integer =>
    if (Number.int64Of? value).isSome then .ok () else .error (.malformedNumber option value)
  | .oneOf words => if value ∈ words then .ok () else .error (.unusableValue option value)

/-- What an option takes. -/
inductive OptionKind where
  /-- Nothing; it is given or not. -/
  | switch
  /-- Nothing; how often it is given counts. -/
  | counter
  /-- One value, once. -/
  | single (rule : ValueRule)
  /-- Values, as often as it is given, with commas between them. -/
  | list
  | help
  | version
deriving DecidableEq, Repr

def OptionKind.takesValue : OptionKind → Bool
  | .single _ => true
  | .list => true
  | _ => false

/-- An option, known by a long name and perhaps by a letter. -/
structure OptionSpec where
  name : String
  letter : Option Char := none
  kind : OptionKind
deriving DecidableEq, Repr

/-- A command. -/
inductive Grammar where
  | command (name : String) (options : List OptionSpec) (commands : List Grammar)
      (takesNames : Bool)

namespace Grammar

def name : Grammar → String
  | .command name .. => name

def options : Grammar → List OptionSpec
  | .command _ options .. => options

def commands : Grammar → List Grammar
  | .command _ _ commands _ => commands

def takesNames : Grammar → Bool
  | .command _ _ _ takesNames => takesNames

/-- Whether the command needs one of its own commands. -/
def needsCommand (g : Grammar) : Bool := !g.commands.isEmpty

def command? (g : Grammar) (word : String) : Option Grammar := g.commands.find? (·.name == word)

/-- The word that asks for help with a command. It is known wherever commands are. -/
def helpWord : String := "help"

/-- Whether a word names a command or asks for help with one. -/
def isCommandWord (g : Grammar) (word : String) : Bool :=
  g.needsCommand && (word == helpWord || (g.command? word).isSome)

def long? (g : Grammar) (name : String) : Option OptionSpec := g.options.find? (·.name == name)

def short? (g : Grammar) (letter : Char) : Option OptionSpec :=
  g.options.find? (·.letter == some letter)

end Grammar
end CommandLine
end ClusterTriage
