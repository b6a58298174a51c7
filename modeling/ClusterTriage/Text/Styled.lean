import ClusterTriage.Text.Substitution

/-!
# Coloured terminal text

A style opens with the codes of its attributes and ends with a reset. Text that holds a reset of its
own would end the style early, so the opening is repeated after every such reset.
-/

namespace ClusterTriage
namespace Text

/-- Attributes of terminal text, by their code. -/
inductive Attribute where
  | bold
  | red
  | green
  | yellow
  | cyan
  | brightBlue
  | brightCyan
deriving DecidableEq, Repr

def Attribute.code : Attribute → String
  | .bold => "1"
  | .red => "31"
  | .green => "32"
  | .yellow => "33"
  | .cyan => "36"
  | .brightBlue => "94"
  | .brightCyan => "96"

/-- The sequence that ends every style. -/
def reset : String := "\x1b[0m"

def opening (attributes : List Attribute) : String :=
  "\x1b[" ++ ";".intercalate (attributes.map Attribute.code) ++ "m"

/-- A text in a style, or the text alone where there are no colours. -/
def styled (colour : Bool) (attributes : List Attribute) (text : String) : String :=
  if colour then
    opening attributes ++ replaceString reset (reset ++ opening attributes) text ++ reset
  else text

end Text
end ClusterTriage
