import ClusterTriage.NameMap
import ClusterTriage.Text.Substitution

/-!
# Prompt templates

A prompt asks for the explanation of the failures of one finding. It comes from a template, chosen
by the kind of the finding, in which the language and the failures are filled in. A kind without a
template of its own takes the default one.
-/

namespace ClusterTriage

/-- Templates by kind of finding. -/
structure Templates where
  byKind : NameMap String
deriving DecidableEq, Repr

namespace Templates

/-- The name of the template for kinds without one. -/
def defaultKind : String := "default"

def defaultTemplate : String :=
  "Simplify the following Kubernetes error message delimited by triple dashes written in " ++
  "--- \x7blanguage\x7d --- language; --- \x7bfailures\x7d ---.\n" ++
  "Provide the most possible solution in a step by step style in no more than 280 characters. " ++
  "Write the output in the following format:\n" ++
  "Error: <explain the error here>\n" ++
  "Solution: <step by step solution here>"

/-- What stands in a template for the language. -/
def languageMark : String := "\x7blanguage\x7d"

def failuresMark : String := "\x7bfailures\x7d"

def standard : Templates := ⟨NameMap.empty.insert defaultKind defaultTemplate⟩

/-- The same templates with one more, or with another one for a kind. -/
def insert (t : Templates) (kind template : String) : Templates :=
  ⟨t.byKind.insert kind template⟩

/-- The default template and configured ones, which may replace it. -/
def withOverrides (overrides : NameMap String) : Templates :=
  overrides.entries.foldl (fun t e => t.insert e.1 e.2) standard

def template (t : Templates) (kind : String) : String :=
  ((t.byKind.find? kind).orElse fun _ => t.byKind.find? defaultKind).getD defaultTemplate

/-- A template with the language filled in first and then the failures. -/
def fill (template language failures : String) : String :=
  Text.replaceString failuresMark failures (Text.replaceString languageMark language template)

/-- The prompt for the failures of a finding. -/
def render (t : Templates) (kind language failures : String) : String :=
  fill (t.template kind) language failures

end Templates
end ClusterTriage
