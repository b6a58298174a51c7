/-!
# Substitution of one text for another

`replaceAll pat new s` replaces the occurrences of `pat` in `s` from left to right; occurrences that
overlap an earlier one do not count, and what was inserted is not searched again. The recursion is
on the text alone: after a match the rest of the match is skipped character by character.
-/

namespace ClusterTriage
namespace Text

/-- Replaces from here on, `skip` characters of the match read last being left out first. -/
def replaceFrom (pat new : List Char) (skip : Nat) : List Char → List Char
  | [] => []
  | c :: cs =>
    match skip with
    | skip + 1 => replaceFrom pat new skip cs
    | 0 =>
      if pat.isPrefixOf (c :: cs) then new ++ replaceFrom pat new (pat.length - 1) cs
      else c :: replaceFrom pat new 0 cs

/-- The text with every occurrence of `pat` replaced by `new`; the empty pattern occurs nowhere. -/
def replaceAll (pat new s : List Char) : List Char :=
  if pat.isEmpty then s else replaceFrom pat new 0 s

def replaceString (pat new s : String) : String :=
  String.ofList (replaceAll pat.toList new.toList s.toList)

/-- Whether `pat` occurs in the text. -/
def occursIn (pat : List Char) : List Char → Bool
  | [] => pat.isEmpty
  | c :: cs => pat.isPrefixOf (c :: cs) || occursIn pat cs

def containsString (s pat : String) : Bool := occursIn pat.toList s.toList

/-- The parts of a text between the occurrences of one character: one part more than there are
occurrences. -/
def splitOnChar (sep : Char) : List Char → List (List Char)
  | [] => [[]]
  | c :: cs =>
    if c = sep then [] :: splitOnChar sep cs
    else
      match splitOnChar sep cs with
      | part :: parts => (c :: part) :: parts
      | [] => [[c]]

def splitString (sep : Char) (s : String) : List String :=
  (splitOnChar sep s.toList).map String.ofList

end Text
end ClusterTriage
