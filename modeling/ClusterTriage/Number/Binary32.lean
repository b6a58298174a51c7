/-!
# Binary floating point, exactly

Temperatures are binary32 numbers. This file rounds a fraction to a binary format, to nearest and
ties to even, and finds the shortest decimal that reads back as a given number. All of it is exact
arithmetic on naturals.
-/

namespace ClusterTriage
namespace Number

/-! ## 1. Formats and rounding -/

/-- A binary format: the bits of the significand with the leading one, and the exponents of the
least and the greatest unit in the last place. -/
structure BinaryFormat where
  precision : Nat
  minExponent : Int
  maxExponent : Int

def binary32 : BinaryFormat := ⟨24, -149, 104⟩

def binary64 : BinaryFormat := ⟨53, -1074, 971⟩

/-- The magnitude of a number of a format: a multiple of a power of two, or too large. -/
inductive Magnitude where
  | finite (significand : Nat) (exponent : Int)
  | infinite
deriving DecidableEq, Repr

/-- `a / b` to the nearest natural, a tie to the even one. -/
def roundDiv (a b : Nat) : Nat :=
  let q := a / b
  let r := a % b
  if 2 * r < b then q else if b < 2 * r then q + 1 else if q % 2 = 0 then q else q + 1

def scale (n : Nat) (e : Int) : Nat × Nat :=
  if 0 ≤ e then (n * Nat.pow 2 e.toNat, 1) else (n, Nat.pow 2 (-e).toNat)

/-- The number of a format nearest to `a / b`, for `0 < b`. -/
def BinaryFormat.round (f : BinaryFormat) (a b : Nat) : Magnitude :=
  if a = 0 then .finite 0 f.minExponent
  else
    -- the exponent at which the quotient has `precision` bits, or one fewer
    let guess : Int := (Nat.log2 a : Int) - (Nat.log2 b : Int) - (f.precision : Int)
    let at_ (e : Int) : Nat :=
      if 0 ≤ e then roundDiv a (b * Nat.pow 2 e.toNat) else roundDiv (a * Nat.pow 2 (-e).toNat) b
    let fits (e : Int) : Bool :=
      if 0 ≤ e then a < b * Nat.pow 2 e.toNat * Nat.pow 2 f.precision
      else a * Nat.pow 2 (-e).toNat < b * Nat.pow 2 f.precision
    let e := max f.minExponent
      (if fits guess then guess else if fits (guess + 1) then guess + 1 else guess + 2)
    let q := at_ e
    let (q, e) := if q = Nat.pow 2 f.precision then (q / 2, e + 1) else (q, e)
    if f.maxExponent < e then .infinite else .finite q e

/-! ## 2. Decimals -/

/-- A decimal numeral: sign, digits, and the power of ten they are multiplied by. -/
structure Decimal where
  negative : Bool
  coefficient : Nat
  exponent : Int
deriving DecidableEq, Repr

/-- The nearest magnitude of a format. Exponents far outside the format are settled by the number of
digits, without computing the power. -/
def Decimal.magnitude (f : BinaryFormat) (d : Decimal) : Magnitude :=
  if d.coefficient = 0 then .finite 0 f.minExponent
  else
    let top := d.exponent + ((Nat.toDigits 10 d.coefficient).length : Int)
    if 400 < top then .infinite
    else if top < -400 then .finite 0 f.minExponent
    else if 0 ≤ d.exponent then f.round (d.coefficient * Nat.pow 10 d.exponent.toNat) 1
    else f.round d.coefficient (Nat.pow 10 (-d.exponent).toNat)

/-! ## 3. Single precision numbers -/

/-- A binary32 number, by its bit pattern. -/
structure Float32Bits where
  bits : UInt32
deriving DecidableEq, Repr, Inhabited

namespace Float32Bits

def ofMagnitude (negative : Bool) : Magnitude → Float32Bits
  | .infinite => ⟨(if negative then 0x80000000 else 0) ||| 0x7F800000⟩
  | .finite q e =>
    let sign : UInt32 := if negative then 0x80000000 else 0
    let magnitude : Nat :=
      if q < 0x800000 then q else ((e + 149 + 1).toNat * 0x800000) + (q - 0x800000)
    ⟨sign ||| UInt32.ofNat magnitude⟩

/-- The number nearest to a decimal, by way of double precision. -/
def ofDecimal (d : Decimal) : Float32Bits :=
  ofMagnitude d.negative <|
    match d.magnitude binary64 with
    | .infinite => .infinite
    | .finite q e => let (a, b) := scale q e; binary32.round a b

def ofInt (n : Int) : Float32Bits := ofMagnitude (n < 0) (binary32.round n.natAbs 1)

/-- The quiet number that is none. -/
def nan : Float32Bits := ⟨0x7FC00000⟩

def infinity : Float32Bits := ⟨0x7F800000⟩

def neg (x : Float32Bits) : Float32Bits := ⟨x.bits ^^^ 0x80000000⟩

def isNegative (x : Float32Bits) : Bool := 0x80000000 ≤ x.bits

def absBits (x : Float32Bits) : Nat := x.bits.toNat % 0x80000000

def isNaN (x : Float32Bits) : Bool := 0x7F800000 < x.absBits

def isInfinite (x : Float32Bits) : Bool := x.absBits == 0x7F800000

/-- Equality of numbers: the two zeros are equal, and what is no number equals nothing. -/
def sameNumber (x y : Float32Bits) : Bool :=
  !x.isNaN && !y.isNaN && (x.bits == y.bits || (x.absBits == 0 && y.absBits == 0))

/-- Significand and exponent of the magnitude of a finite number. -/
def parts (x : Float32Bits) : Nat × Int :=
  let biased : Nat := x.absBits / 0x800000
  let fraction : Nat := x.absBits % 0x800000
  if biased = 0 then (fraction, -149) else (0x800000 + fraction, (biased : Int) - 150)

/-! ## 4. The shortest decimal

The decimals that read back as `m * 2 ^ e` lie between the midpoints to its two neighbours, the
midpoints included if `m` is even. On the grid of decimals with `k` digits the value has two
neighbours; the first `k` for which one of them lies in that interval gives the shortest digits.
-/

/-- Whether `d * 10 ^ p` reads back as `m * 2 ^ e`. All numbers are compared after clearing
denominators; the lower gap is half as wide where the exponent changes. -/
def readsBack (m : Nat) (e : Int) (d : Nat) (p : Int) : Bool :=
  let lowerHalf : Bool := m == 0x800000 && e != -149
  -- in units of a quarter of `2 ^ e`
  let low := if lowerHalf then 4 * m - 1 else 4 * m - 2
  let high := 4 * m + 2
  let (en, ed) := scale 1 (e - 2)
  let (pn, pd) : Nat × Nat :=
    if 0 ≤ p then (Nat.pow 10 p.toNat, 1) else (1, Nat.pow 10 (-p).toNat)
  let x := d * pn * ed
  let lo := low * en * pd
  let hi := high * en * pd
  if m % 2 = 0 then lo ≤ x && x ≤ hi else lo < x && x < hi

/-- The candidates on the grid of step `10 ^ p` on either side of `m * 2 ^ e`, nearer one first; at
equal distance the even one is first. -/
def gridNeighbours (m : Nat) (e : Int) (p : Int) : List Nat :=
  let (en, ed) := scale m e
  let (pn, pd) : Nat × Nat :=
    if 0 ≤ p then (Nat.pow 10 p.toNat, 1) else (1, Nat.pow 10 (-p).toNat)
  let a := en * pd
  let b := ed * pn
  let q := a / b
  let r := a % b
  if 2 * r < b then [q, q + 1]
  else if b < 2 * r then [q + 1, q]
  else if q % 2 = 0 then [q, q + 1] else [q + 1, q]

/-- The exponent of ten of the leading digit of `m * 2 ^ e`. -/
def leadingExponent (m : Nat) (e : Int) : Int :=
  let (a, b) := scale m e
  if b ≤ a then ((Nat.toDigits 10 (a / b)).length : Int) - 1
  else
    -- the least power of ten that lifts the value to one or more
    -((Nat.toDigits 10 ((b - 1) / a)).length : Int)

/-- The shortest digits and their power of ten, searched from one digit up. -/
def shortestFrom (m : Nat) (e top : Int) : (more digits : Nat) → Nat × Int
  | 0, digits => ((gridNeighbours m e (top - digits)).headD 0, top - digits)
  | more + 1, digits =>
    let p := top - digits
    match (gridNeighbours m e p).find? fun d => 0 < d && readsBack m e d p with
    | some d => (d, p)
    | none => shortestFrom m e top more (digits + 1)

/-- A digit string without zeros at its end, and the power of ten that takes their place. -/
def stripZeros : Nat → Nat → Int → Nat × Int
  | 0, d, p => (d, p)
  | more + 1, d, p => if d ≠ 0 ∧ d % 10 = 0 then stripZeros more (d / 10) (p + 1) else (d, p)

/-- The digits of a finite number other than zero, and the power of ten of the last of them. -/
def shortest (x : Float32Bits) : Nat × Int :=
  let (m, e) := x.parts
  let top := leadingExponent m e
  let (d, p) := shortestFrom m e top 9 0
  stripZeros 10 d p

/-! ## 5. Texts -/

/-- Digits with the point `places` before their end. -/
def positional (digits : List Char) (p : Int) (keepPoint : Bool) : String :=
  if 0 ≤ p then
    String.ofList (digits ++ List.replicate p.toNat '0') ++ (if keepPoint then ".0" else "")
  else
    let places := (-p).toNat
    let padded := List.replicate (places + 1 - digits.length) '0' ++ digits
    let whole := padded.take (padded.length - places)
    let fraction := padded.drop (padded.length - places)
    String.ofList (whole ++ '.' :: fraction)

/-- The number in JSON: positional with a point from a millionth up to ten billions of thousands,
otherwise with a signed exponent. What is no finite number is `null`. -/
def toJson (x : Float32Bits) : String :=
  let sign := if x.isNegative then "-" else ""
  if x.isNaN || x.isInfinite then "null"
  else if x.absBits = 0 then sign ++ "0.0"
  else
    let (d, p) := x.shortest
    let digits := Nat.toDigits 10 d
    let lead : Int := p + (digits.length : Int) - 1
    if -6 ≤ lead ∧ lead < 13 then sign ++ positional digits p true
    else
      let mantissa := match digits with
        | [c] => String.ofList [c]
        | c :: rest => String.ofList (c :: '.' :: rest)
        | [] => ""
      let expSign := if lead < 0 then "-" else "+"
      sign ++ mantissa ++ "e" ++ expSign ++ toString lead.natAbs

/-- The number in TOML: always positional and always with a point. -/
def toToml (x : Float32Bits) : String :=
  let sign := if x.isNegative then "-" else ""
  if x.isNaN then "nan"
  else if x.isInfinite then sign ++ "inf"
  else if x.absBits = 0 then sign ++ "0.0"
  else
    let (d, p) := x.shortest
    sign ++ positional (Nat.toDigits 10 d) p true

end Float32Bits

end Number
end ClusterTriage
