/-!
# Punycode

Names beyond ASCII are written in ASCII: first the characters that are ASCII, then the others as
numbers that say where each is inserted. Insertions go from the least character upwards, and the
base of each digit adapts to the insertions before it.
-/

namespace ClusterTriage
namespace Url
namespace Punycode

/-- How the base of the digits adapts after an insertion among `points` characters. -/
def adapt (delta points : Nat) (first : Bool) : Nat :=
  let delta := if first then delta / 700 else delta / 2
  reduce (delta + delta / points) 0 delta
where
  /-- Divides until the rest is small; a division at least halves, so the start bounds them. -/
  reduce (d k : Nat) : Nat → Nat
    | 0 => k + 36 * d / (d + 38)
    | fuel + 1 => if 455 < d then reduce (d / 35) (k + 36) fuel else k + 36 * d / (d + 38)

def threshold (k bias : Nat) : Nat :=
  if k ≤ bias then 1 else if bias + 26 ≤ k then 26 else k - bias

def digitChar (n : Nat) : Char := if n < 26 then Char.ofNat (97 + n) else Char.ofNat (22 + n)

def digit? (c : Char) : Option Nat :=
  let n := c.toNat
  if 97 ≤ n ∧ n ≤ 122 then some (n - 97)
  else if 65 ≤ n ∧ n ≤ 90 then some (n - 65)
  else if 48 ≤ n ∧ n ≤ 57 then some (n - 22)
  else none

/-- The digits of a number, least significant first, each in its own base. -/
def digits (bias k q : Nat) : (fuel : Nat) → List Char
  | 0 => []
  | fuel + 1 =>
    let t := threshold k bias
    if q < t then [digitChar q]
    else digitChar (t + (q - t) % (36 - t)) :: digits bias (k + 36) ((q - t) / (36 - t)) fuel

/-- The state of writing. -/
structure Writer where
  bias : Nat := 72
  delta : Nat := 0
  /-- The number of characters written or inserted so far. -/
  handled : Nat
  first : Bool := true
  out : List Char

/-- Goes through a name once and inserts every occurrence of the character `n`. -/
def Writer.insertAll (n : Nat) (w : Writer) : List Nat → Writer
  | [] => w
  | c :: rest =>
    if c < n then insertAll n { w with delta := w.delta + 1 } rest
    else if c = n then
      insertAll n
        { bias := adapt w.delta (w.handled + 1) w.first, delta := 0, handled := w.handled + 1
          first := false, out := w.out ++ digits w.bias 36 w.delta (w.delta + 1) } rest
    else insertAll n w rest

/-- Inserts the characters beyond ASCII, from the least upwards. -/
def Writer.run (points : List Nat) (n : Nat) (w : Writer) : List Nat → Writer
  | [] => w
  | c :: rest =>
    let w := { w with delta := w.delta + (c - n) * (w.handled + 1) }
    let w := w.insertAll c points
    run points (c + 1) { w with delta := w.delta + 1 } rest

def extended (points : List Nat) : List Nat :=
  ((points.filter (0x80 ≤ ·)).mergeSort (· ≤ ·)).eraseReps

def encode (cs : List Char) : List Char :=
  let points := cs.map Char.toNat
  let basic := cs.filter fun c => c.toNat < 0x80
  let start := if basic.isEmpty then [] else basic ++ ['-']
  ((⟨72, 0, basic.length, true, start⟩ : Writer).run points 0x80 (extended points)).out

/-- A number from digits, each in its own base, and the rest. -/
def number? (bias k weight acc : Nat) : List Char → Option (Nat × List Char)
  | [] => none
  | c :: rest => do
    let d ← digit? c
    let t := threshold k bias
    let acc := acc + d * weight
    if d < t then some (acc, rest) else number? bias (k + 36) (weight * (36 - t)) acc rest

/-- Inserts characters as numbers say, as long as there are any. Every number takes a digit at
least, so `fuel` need not exceed the number of digits. -/
def insertions (fuel : Nat) (first : Bool) (i n bias : Nat) (out : List Char) (cs : List Char) :
    Option (List Char) :=
  match fuel, cs with
  | _, [] => some out
  | 0, _ => none
  | fuel + 1, cs => do
    let (delta, rest) ← number? bias 36 1 0 cs
    let size := out.length + 1
    let total := i + delta
    let n := n + total / size
    let place := total % size
    if n < 0xD800 ∨ (0xE000 ≤ n ∧ n < 0x110000) then
      insertions fuel false (place + 1) n (adapt delta size first)
        (out.take place ++ Char.ofNat n :: out.drop place) rest
    else none

def decode? (cs : List Char) : Option (List Char) :=
  let tail := (cs.reverse.takeWhile (· != '-')).reverse
  let basic := cs.take (cs.length - tail.length - 1)
  if cs.contains '-' then insertions tail.length true 0 0x80 72 basic tail
  else insertions cs.length true 0 0x80 72 [] cs

end Punycode
end Url
end ClusterTriage
