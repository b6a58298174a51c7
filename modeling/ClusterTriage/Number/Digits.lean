/-!
# Numbers in text

Decimal digits, and integers written with them. An integer may have a sign before its digits.
-/

namespace ClusterTriage
namespace Number

def isDigit (c : Char) : Bool := '0' ≤ c && c ≤ '9'

/-- The number that decimal digits denote, the most significant first. -/
def digitsValue (cs : List Char) : Nat := cs.foldl (fun n c => n * 10 + (c.toNat - '0'.toNat)) 0

/-- The number that a text of digits denotes. There has to be one digit at least. -/
def naturalOf? (cs : List Char) : Option Nat :=
  if cs ≠ [] ∧ cs.all isDigit then some (digitsValue cs) else none

def integerOf? (text : String) : Option Int :=
  match text.toList with
  | '-' :: cs => (naturalOf? cs).map fun n => -(n : Int)
  | '+' :: cs => (naturalOf? cs).map Int.ofNat
  | cs => (naturalOf? cs).map Int.ofNat

/-- The integer that a text spells, if a signed word of 64 bits can hold it. -/
def int64Of? (text : String) : Option Int :=
  (integerOf? text).filter fun n => -0x8000000000000000 ≤ n && n < 0x8000000000000000

end Number
end ClusterTriage
