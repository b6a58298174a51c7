import ClusterTriage.CommandLine.Grammar

/-!
# Reading a command line

A command line is read word by word. An option that takes a value and does not bring it along
waits for the next word, and what it was given is checked only when the next option comes or the
line ends; the same holds of names. So a word that fits nowhere is reported before a value that is
not allowed.

What was given is kept apart for every command on the way, the outermost first. An option that
several of them know counts where it was given last.
-/

namespace ClusterTriage
namespace CommandLine

/-! ## 1. What has been given -/

/-- The values given to the options of one command. A switch that is given has the value `true`,
and a counter has one value each time. -/
abbrev Given := List (String × List String)

/-- The values of an option, if it was given. -/
def Given.values (g : Given) (option : String) : Option (List String) := g.lookup option

def Given.push (g : Given) (option : String) (values : List String) : Given :=
  match g.lookup option with
  | none => g ++ [(option, values)]
  | some _ => g.map fun (o, vs) => if o == option then (o, vs ++ values) else (o, vs)

/-- What was given to one command. -/
structure Level where
  command : String
  given : Given
  names : List String
deriving DecidableEq, Repr

/-! ## 2. The state within one command -/

/-- What has been read but not been checked yet. -/
inductive Pending where
  | option (spec : OptionSpec) (values : List String)
  | names (words : List String)
deriving DecidableEq, Repr

/-- The state within one command. -/
structure State where
  given : Given := []
  names : List String := []
  pending : Option Pending := none
deriving DecidableEq, Repr

namespace State

/-- The option that waits for its value. -/
def awaiting? (s : State) : Option OptionSpec :=
  match s.pending with
  | some (.option spec []) => some spec
  | _ => none

def take (s : State) (spec : OptionSpec) (values : List String) : Except Fault State :=
  let push (values : List String) : State := { s with given := s.given.push spec.name values }
  let seen := (s.given.values spec.name).isSome
  match spec.kind with
  | .help => .error .help
  | .version => .error .version
  | .switch => if seen then .error (.repeated spec.name) else .ok (push ["true"])
  | .counter => .ok (push ["true"])
  | .single rule =>
    match values with
    | [] => .error (.unusableValue spec.name "")
    | value :: _ =>
      if seen then .error (.repeated spec.name)
      else (rule.check spec.name value).map fun _ => push [value]
  | .list =>
    match values with
    | [] => .error (.unusableValue spec.name "")
    | _ => .ok (push (values.flatMap (Text.splitString ',')))

def settle (s : State) : Except Fault State :=
  let rest := { s with pending := none }
  match s.pending with
  | none => .ok s
  | some (.option spec values) => rest.take spec values
  | some (.names words) =>
    .ok { rest with names := s.names ++ words.flatMap (Text.splitString ',') }

/-- Takes an option that brings its value along or needs none. -/
def settleAndTake (s : State) (spec : OptionSpec) (values : List String) : Except Fault State := do
  (← s.settle).take spec values

def await (s : State) (spec : OptionSpec) : Except Fault State := do
  return { (← s.settle) with pending := some (.option spec []) }

/-- Gives a word to the option that waits for it. -/
def supply (s : State) (spec : OptionSpec) (word : String) : State :=
  { s with pending := some (.option spec [word]) }

def addName (s : State) (word : String) : Except Fault State :=
  match s.pending with
  | some (.names words) => .ok { s with pending := some (.names (words ++ [word])) }
  | _ => do return { (← s.settle) with pending := some (.names [word]) }

end State

/-! ## 3. Single words -/

/-- Takes a long option, with what follows its name after an equals sign. -/
def long (g : Grammar) (s : State) (body : List Char) : Except Fault State :=
  let name := String.ofList (body.takeWhile (· != '='))
  let value : Option String :=
    match body.dropWhile (· != '=') with
    | _ :: value => some (String.ofList value)
    | [] => none
  match g.long? name with
  | none => .error (.unknownArgument ("--" ++ name))
  | some spec =>
    match spec.kind.takesValue, value with
    | true, some value => s.settleAndTake spec [value]
    | true, none => s.await spec
    | false, some _ => .error (.unwantedValue spec.name)
    | false, none => s.settleAndTake spec []

/-- Takes letters one after another. What follows the letter of an option that takes a value is its
value, after an equals sign or at once. -/
def letters (g : Grammar) (s : State) : List Char → Except Fault State
  | [] => .ok s
  | c :: rest =>
    match g.short? c with
    | none => .error (.unknownArgument (String.ofList ['-', c]))
    | some spec =>
      if spec.kind.takesValue then
        match rest with
        | [] => s.await spec
        | '=' :: value => s.settleAndTake spec [String.ofList value]
        | value => s.settleAndTake spec [String.ofList value]
      else do letters g (← s.settleAndTake spec []) rest

/-- A word that is no option, no value and no command. -/
def plain (g : Grammar) (afterDashes : Bool) (s : State) (word : String) : Except Fault State :=
  if g.takesNames then s.addName word
  else if afterDashes && g.isCommandWord word then .error (.unknownArgument word)
  else if g.needsCommand then .error (.unknownCommand word)
  else .error (.unknownArgument word)

/-- A word before which no double dash stood. -/
def word (g : Grammar) (s : State) (w : String) : Except Fault State :=
  match w.toList with
  | '-' :: '-' :: c :: body => long g s (c :: body)
  | '-' :: c :: body => letters g s (c :: body)
  | _ =>
    match s.awaiting? with
    | some spec => .ok (s.supply spec w)
    | none => plain g false s w

/-! ## 4. Whole lines -/

/-- What comes of asking for help with a command. -/
def helpWith (g : Grammar) : List String → Fault
  | [] => .help
  | w :: rest =>
    match g.command? w with
    | some inner => helpWith inner rest
    | none =>
      if g.needsCommand && w == Grammar.helpWord && rest.isEmpty then .help else .unknownCommand w

/-- The end of what a command was given. -/
def finish (g : Grammar) (s : State) (inner : List Level) : Except Fault (List Level) := do
  let s ← s.settle
  if inner.isEmpty && g.needsCommand then
    .error (if s.given.isEmpty then .nothingGiven else .missingCommand)
  else if g.takesNames && s.names.isEmpty then .error .missingNames
  else .ok ({ command := g.name, given := s.given, names := s.names } :: inner)

def read (g : Grammar) (s : State) (afterDashes : Bool) :
    List String → Except Fault (List Level)
  | [] => finish g s []
  | w :: rest =>
    if afterDashes then do read g (← plain g true s w) true rest
    else if s.awaiting?.isNone && g.isCommandWord w then
      match g.command? w with
      | none => .error (helpWith g rest)
      | some inner => do finish g s (← read inner {} false rest)
    else if w = "--" then read g s true rest
    else do read g (← word g s w) false rest

/-- What the innermost command that knows of it was given for an option. -/
def lastValues (levels : List Level) (option : String) : Option (List String) :=
  levels.reverse.findSome? (·.given.values option)

end CommandLine
end ClusterTriage
