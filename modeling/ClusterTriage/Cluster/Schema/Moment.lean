import ClusterTriage.Calendar
import ClusterTriage.Number.Digits
import ClusterTriage.Text.Blank

/-!
# Moments

The texts that denote a moment: a date, a `T` or a blank, a time to the second with an optional
fraction, and the offset from universal time. Blanks may stand in front of every part.
-/

namespace ClusterTriage
namespace Cluster
namespace Moment

open Number (isDigit digitsValue)

/-- Parsing of the rest of a text. -/
abbrev Reader (α : Type) := List Char → Option (α × List Char)

def skipBlanks (cs : List Char) : List Char := cs.dropWhile Text.isBlank

/-- A number of at least one digit and at most `width`. -/
def number (width : Nat) : Reader Nat := fun cs =>
  let ds := (cs.take width).takeWhile isDigit
  if ds.isEmpty then none else some (digitsValue ds, cs.drop ds.length)

/-- A number of at most two digits after blanks. -/
def short : Reader Nat := fun cs => number 2 (skipBlanks cs)

/-- The rest after blanks and a given character. -/
def mark (c : Char) (cs : List Char) : Option (List Char) :=
  match skipBlanks cs with
  | d :: rest => if c = d then some rest else none
  | [] => none

/-- A year: four digits at most, or a sign and any number of digits. -/
def year : Reader Int := fun cs =>
  match skipBlanks cs with
  | '-' :: rest => (number rest.length rest).map fun (n, rest) => (-(n : Int), rest)
  | '+' :: rest => (number rest.length rest).map fun (n, rest) => ((n : Int), rest)
  | cs => (number 4 cs).map fun (n, rest) => ((n : Int), rest)

def date (cs : List Char) : Option (List Char) := do
  let (y, rest) ← year cs
  let (m, rest) ← short (← mark '-' rest)
  let (d, rest) ← short (← mark '-' rest)
  if -262143 ≤ y ∧ y ≤ 262142 ∧ Calendar.isDate y m d then some rest else none

/-- The rest after the fraction of a second, if there is one. -/
def fraction : List Char → Option (List Char)
  | '.' :: rest =>
    if (rest.head?.map isDigit).getD false then some (rest.dropWhile isDigit) else none
  | rest => some rest

/-- The rest after a time of day. A minute may have a leap second. -/
def time (cs : List Char) : Option (List Char) := do
  let (h, rest) ← short cs
  let (m, rest) ← short (← mark ':' rest)
  let (s, rest) ← short (← mark ':' rest)
  if h < 24 ∧ m < 60 ∧ s ≤ 60 then fraction rest else none

def twoDigits : Reader Nat
  | a :: b :: rest => if isDigit a && isDigit b then some (digitsValue [a, b], rest) else none
  | _ => none

def offset : List Char → Option (List Char)
  | 'Z' :: rest => some rest
  | 'z' :: rest => some rest
  | c :: rest =>
    if c = '+' ∨ c = '-' ∨ c = '\u2212' then do
      let (h, rest) ← twoDigits rest
      let (m, rest) ← twoDigits (rest.dropWhile fun c => c == ':' || Text.isBlank c)
      if h < 24 ∧ m < 60 then some rest else none
    else
      match c :: rest with
      | u :: t :: c :: rest =>
        if [u, t, c].map Char.toLower = ['u', 't', 'c'] then some rest else none
      | _ => none
  | [] => none

/-- Whether a text denotes a moment. -/
def isMoment (text : String) : Bool :=
  let rest : Option (List Char) := do
    let rest ← date text.toList
    match rest with
    | c :: rest =>
      if c = 't' ∨ c = 'T' ∨ c = ' ' then offset (skipBlanks (← time rest)) else none
    | [] => none
  match rest with
  | some rest => rest.all Text.isBlank
  | none => false

end Moment
end Cluster
end ClusterTriage
