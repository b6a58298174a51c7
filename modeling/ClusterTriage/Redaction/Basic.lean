import ClusterTriage.Text.Substitution

/-!
# Reversible redaction

A rule pairs a value that must not leave the process with the mask sent in its place. A list of
rules masks a text front to back and unmasks it back to front, so that the last mask written is the
first one taken off again.
-/

namespace ClusterTriage
namespace Redaction

/-- A value and its mask. -/
structure Rule where
  unmasked : String
  /-- What is sent in its place. -/
  masked : String
deriving DecidableEq, Repr, Inhabited

/-- Rules in the order in which they are applied. -/
abbrev Rules := List Rule

/-- One rule at work; a rule for the empty value does nothing. -/
def Rule.mask (r : Rule) (text : String) : String :=
  Text.replaceString r.unmasked r.masked text

/-- One rule undone; a rule whose mask is empty cannot be. -/
def Rule.unmask (r : Rule) (text : String) : String :=
  Text.replaceString r.masked r.unmasked text

/-- Replaces every value by its mask, rule after rule. -/
def mask (rules : Rules) (text : String) : String :=
  rules.foldl (fun acc r => r.mask acc) text

/-- Replaces every mask by its value, last rule first. -/
def unmask (rules : Rules) (text : String) : String :=
  rules.foldr (fun r acc => r.unmask acc) text

end Redaction
end ClusterTriage
