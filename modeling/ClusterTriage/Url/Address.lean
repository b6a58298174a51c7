import ClusterTriage.Encoding.Hex
import ClusterTriage.Text.Substitution

/-!
# Network addresses

An address of four bytes may be written with fewer parts, of which the last fills the rest, and each
part in one of three bases. An address of eight words leaves out one run of zeros, and its last two
words may be written as four bytes.
-/

namespace ClusterTriage
namespace Url

/-! ## 1. Four bytes -/

def isDigitOf (base : Nat) (c : Char) : Bool :=
  match Encoding.Hex.value? c with
  | some n => n < base
  | none => false

/-- The number that digits of a base denote. -/
def digitsIn (base : Nat) (cs : List Char) : Nat :=
  cs.foldl (fun n c => n * base + (Encoding.Hex.value? c).getD 0) 0

/-- One part: hexadecimal after `0x`, octal after another zero, else decimal. -/
def ipv4Number? (cs : List Char) : Option Nat :=
  let inBase (base : Nat) (ds : List Char) : Option Nat :=
    if ds.all (isDigitOf base) then some (digitsIn base ds) else none
  match cs with
  | [] => none
  | '0' :: 'x' :: ds => inBase 16 ds
  | '0' :: 'X' :: ds => inBase 16 ds
  | '0' :: d :: ds => inBase 8 (d :: ds)
  | ds => inBase 10 ds

/-- The parts of a name; a point at the very end adds none. -/
def nameParts (cs : List Char) : List (List Char) :=
  let parts := Text.splitOnChar '.' cs
  if 1 < parts.length ∧ parts.getLast? = some [] then parts.dropLast else parts

/-- Whether a name ends in a number, so that it has to be an address. -/
def endsInNumber (cs : List Char) : Bool :=
  match (nameParts cs).getLast? with
  | some part => (!part.isEmpty && part.all (isDigitOf 10)) || (ipv4Number? part).isSome
  | none => false

def ipv4? (cs : List Char) : Option Nat := do
  let numbers ← (nameParts cs).mapM ipv4Number?
  let front := numbers.dropLast
  let last ← numbers.getLast?
  if 4 < numbers.length ∨ front.any (255 < ·) ∨ Nat.pow 256 (4 - front.length) ≤ last then none
  else some (last + (front.zipIdx.map fun (n, i) => n * Nat.pow 256 (3 - i)).foldr (· + ·) 0)

/-- An address as four decimal bytes. -/
def ipv4Text (n : Nat) : String :=
  ".".intercalate ([3, 2, 1, 0].map fun i => toString (n / Nat.pow 256 i % 256))

/-! ## 2. Eight words -/

/-- The address of four decimal bytes without superfluous zeros. -/
def embedded? (cs : List Char) : Option (List Nat) := do
  let parts := Text.splitOnChar '.' cs
  if parts.length ≠ 4 then none
  else
    let bytes ← parts.mapM fun ds =>
      let n := digitsIn 10 ds
      if ds.isEmpty || !ds.all (isDigitOf 10) || (ds.head? == some '0' && 1 < ds.length) || 255 < n
      then none
      else some n
    match bytes with
    | [a, b, c, d] => some [a * 256 + b, c * 256 + d]
    | _ => none

/-- One word: up to four digits. -/
def word? (ds : List Char) : Option Nat :=
  if ds.isEmpty || 4 < ds.length then none else Encoding.Hex.toNat? ds

/-- The words between colons; the last two may be written as four bytes. -/
def words? (cs : List Char) : Option (List Nat) :=
  if cs.isEmpty then some []
  else
    let parts := Text.splitOnChar ':' cs
    match parts.getLast? with
    | some last =>
      if last.contains '.' then do
        some ((← parts.dropLast.mapM word?) ++ (← embedded? last))
      else parts.mapM word?
    | none => none

/-- The text before the first two colons in a row, and the text after them. -/
def splitAtGap : List Char → Option (List Char × List Char)
  | [] => none
  | ':' :: ':' :: rest => some ([], rest)
  | c :: rest => (splitAtGap rest).map fun (a, b) => (c :: a, b)

/-- The address of eight words that a text denotes. -/
def ipv6? (cs : List Char) : Option (List Nat) := do
  match splitAtGap cs with
  | none =>
    let words ← words? cs
    if words.length = 8 then some words else none
  | some (left, right) =>
    if left.contains '.' then none
    else
      let front ← words? left
      let back ← words? right
      let missing := 8 - (front.length + back.length)
      if missing = 0 then none else some (front ++ List.replicate missing 0 ++ back)

/-- The length of the run of zeros at the start. -/
def zeroRun (words : List Nat) : Nat := (words.takeWhile (· == 0)).length

/-- The start and the length of the first longest run of zeros. -/
def longestZeroRun (words : List Nat) : Nat × Nat :=
  (List.range words.length).foldl
    (fun best i =>
      let n := zeroRun (words.drop i)
      if best.2 < n then (i, n) else best)
    (0, 0)

/-- An address in hexadecimal words, its longest run of zeros left out. -/
def ipv6Text (words : List Nat) : String :=
  let joined (ws : List Nat) : String := ":".intercalate (ws.map Encoding.Hex.ofNat)
  let (start, n) := longestZeroRun words
  if n < 2 then joined words
  else joined (words.take start) ++ "::" ++ joined (words.drop (start + n))

end Url
end ClusterTriage
