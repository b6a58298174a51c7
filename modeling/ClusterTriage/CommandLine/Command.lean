import ClusterTriage.CommandLine.Reader
import ClusterTriage.Report.Text

/-!
# The commands of the program

`analyze` examines the cluster, and `filters` shows or edits the analyzers that run by default.
Where the settings are, and how much is logged, can be said before a command and after it.
-/

namespace ClusterTriage
namespace CommandLine

/-! ## 1. The commands -/

/-- What is asked of an analysis. What is not set is taken from the settings. -/
structure AnalyzeFlags where
  filters : List String := []
  space : Option String := none
  selector : Option String := none
  explain : Bool := false
  backend : Option String := none
  language : Option String := none
  anonymize : Bool := false
  noCache : Bool := false
  maxConcurrency : Option Int := none
  /-- Whether the cluster's documentation of fields is attached. -/
  withDoc : Bool := false
  /-- Whether the time of each analyzer is reported. -/
  withStats : Bool := false
  output : ReportFormat := .text
  context : Option String := none
  kubeconfig : Option String := none
deriving DecidableEq, Repr

/-- What to do with the configured filters. -/
inductive FilterCommand where
  | list
  | add (names : List String)
  | remove (names : List String)
deriving DecidableEq, Repr

/-- What the program can be asked to do. -/
inductive Command where
  | analyze (flags : AnalyzeFlags)
  | filters (command : FilterCommand)
deriving DecidableEq, Repr

/-- A command with what holds for every command. -/
structure Invocation where
  config : Option String := none
  /-- How much is logged. -/
  verbosity : Nat := 0
  quiet : Bool := false
  command : Command
deriving DecidableEq, Repr

/-! ## 2. The grammar -/

/-- The options that every command has. -/
def sharedOptions : List OptionSpec :=
  [⟨"config", some 'c', .single .path⟩, ⟨"verbose", some 'v', .counter⟩,
    ⟨"quiet", some 'q', .switch⟩, ⟨"help", some 'h', .help⟩]

def analyzeOptions : List OptionSpec :=
  [⟨"filter", some 'f', .list⟩, ⟨"namespace", some 'n', .single .text⟩,
    ⟨"selector", some 'L', .single .text⟩, ⟨"explain", some 'e', .switch⟩,
    ⟨"backend", some 'b', .single .text⟩, ⟨"language", some 'l', .single .text⟩,
    ⟨"anonymize", some 'a', .switch⟩, ⟨"no-cache", none, .switch⟩,
    ⟨"max-concurrency", some 'm', .single .integer⟩, ⟨"with-doc", some 'd', .switch⟩,
    ⟨"with-stats", some 's', .switch⟩, ⟨"output", some 'o', .single (.oneOf ["text", "json"])⟩,
    ⟨"context", none, .single .text⟩, ⟨"kubeconfig", none, .single .path⟩]

def analyzeGrammar : Grammar := .command "analyze" (analyzeOptions ++ sharedOptions) [] false

def filtersGrammar : Grammar :=
  .command "filters" sharedOptions
    [.command "list" sharedOptions [] false, .command "add" sharedOptions [] true,
      .command "remove" sharedOptions [] true] false

def grammar : Grammar :=
  .command "kube-doctor" (sharedOptions ++ [⟨"version", some 'V', .version⟩])
    [analyzeGrammar, filtersGrammar] false

/-! ## 3. From what was given to commands -/

namespace Level

variable (l : Level)

/-- The value of an option, if it was given. -/
def value? (option : String) : Option String := (l.given.values option).bind (·.head?)

def has (option : String) : Bool := (l.given.values option).isSome

def analyzeFlags : AnalyzeFlags where
  filters := (l.given.values "filter").getD []
  space := l.value? "namespace"
  selector := l.value? "selector"
  explain := l.has "explain"
  backend := l.value? "backend"
  language := l.value? "language"
  anonymize := l.has "anonymize"
  noCache := l.has "no-cache"
  maxConcurrency := (l.value? "max-concurrency").bind Number.int64Of?
  withDoc := l.has "with-doc"
  withStats := l.has "with-stats"
  output := if l.value? "output" = some "json" then .json else .text
  context := l.value? "context"
  kubeconfig := l.value? "kubeconfig"

end Level

/-- The command that the levels below the program itself amount to. -/
def commandOf? : List Level → Option Command
  | [l] => if l.command = "analyze" then some (.analyze l.analyzeFlags) else none
  | [_, l] =>
    match l.command with
    | "list" => some (.filters .list)
    | "add" => some (.filters (.add l.names))
    | "remove" => some (.filters (.remove l.names))
    | _ => none
  | _ => none

def maxVerbosity : Nat := 255

/-- The invocation that a command line spells. -/
def parse (words : List String) : Except Fault Invocation := do
  let levels ← read grammar {} false words
  match commandOf? levels.tail with
  | none => .error .missingCommand
  | some command =>
    .ok {
      config := (lastValues levels "config").bind (·.head?)
      verbosity := min ((lastValues levels "verbose").getD []).length maxVerbosity
      quiet := (lastValues levels "quiet").isSome
      command }

end CommandLine
end ClusterTriage
