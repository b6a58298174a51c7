import ClusterTriage.Calendar
import ClusterTriage.Datum.Basic
import ClusterTriage.Encoding.Hex
import ClusterTriage.Number.Digits
import ClusterTriage.Text.Substitution

/-!
# TOML scalars without quotes

Truth values, integers in four bases, floats, and dates with times. Digits may be grouped by
single underscores between two of them. A date or time is kept as an object with one private
member, so that it is neither a text nor a number.
-/

namespace ClusterTriage
namespace Toml

open Number

/-! ## 1. Numbers -/

/-- Digits of a base, with underscores only between digits; the underscores are dropped. -/
def grouped (belongs : Char → Bool) (cs : List Char) : Option (List Char) :=
  let groups := Text.splitOnChar '_' cs
  if groups.all fun g => !g.isEmpty && g.all belongs then some groups.flatten else none

def sign : List Char → Bool × List Char
  | '-' :: cs => (true, cs)
  | '+' :: cs => (false, cs)
  | cs => (false, cs)

/-- The digits of a decimal integer without sign: no zero in front of others. -/
def wholeDigits (cs : List Char) : Option (List Char) := do
  let ds ← grouped isDigit cs
  match ds with
  | '0' :: _ :: _ => none
  | _ => some ds

/-- An integer in one of the bases that have a mark in front. -/
def radixInteger : List Char → Option Int
  | '0' :: 'x' :: cs => do
    let ds ← grouped (fun c => (Encoding.Hex.value? c).isSome) cs
    return (← Encoding.Hex.toNat? ds : Nat)
  | '0' :: 'o' :: cs => do
    let ds ← grouped (fun c => '0' ≤ c && c ≤ '7') cs
    return (ds.foldl (fun n c => n * 8 + (c.toNat - 48)) 0 : Nat)
  | '0' :: 'b' :: cs => do
    let ds ← grouped (fun c => c == '0' || c == '1') cs
    return (ds.foldl (fun n c => n * 2 + (c.toNat - 48)) 0 : Nat)
  | _ => none

/-- An integer that fits 64 bits. -/
def integer? (cs : List Char) : Option Datum := do
  let n ← match radixInteger cs with
    | some n => some n
    | none => do
      let (negative, cs) := sign cs
      let n : Int := digitsValue (← wholeDigits cs)
      some (if negative then -n else n)
  if -0x8000000000000000 ≤ n ∧ n < 0x8000000000000000 then some (.int n) else none

/-- A float: infinite, none, or with a fraction or an exponent. -/
def float? (cs : List Char) : Option Datum := do
  let (negative, body) := sign cs
  let signed (x : Float32Bits) := if negative then x.neg else x
  if body = ['i', 'n', 'f'] then some (.single (signed .infinity))
  else if body = ['n', 'a', 'n'] then some (.single (signed .nan))
  else
    let isMark (c : Char) : Bool := c == 'e' || c == 'E'
    let mantissa := body.takeWhile (!isMark ·)
    let exponent ← match body.dropWhile (!isMark ·) with
      | [] => some (0 : Int)
      | _ :: rest =>
        let (negative, rest) := sign rest
        (grouped isDigit rest).map fun ds =>
          let n : Int := digitsValue ds
          if negative then -n else n
    let (whole, fraction) ← match Text.splitOnChar '.' mantissa with
      | [whole] => if mantissa.length = body.length then none else do
        some (← wholeDigits whole, [])
      | [whole, fraction] => do some (← wholeDigits whole, ← grouped isDigit fraction)
      | _ => none
    let d : Decimal :=
      ⟨negative, digitsValue (whole ++ fraction), exponent - (fraction.length : Int)⟩
    match d.magnitude binary64 with
    | .infinite => none
    | .finite .. => some (.decimal d)

/-! ## 2. Dates and times -/

def digitsExactly (n : Nat) (cs : List Char) : Option (Nat × List Char) :=
  let ds := cs.take n
  if ds.length = n ∧ ds.all isDigit then some (digitsValue ds, cs.drop n) else none

def expect (c : Char) : List Char → Option (List Char)
  | d :: rest => if c = d then some rest else none
  | [] => none

def twoDigits (n : Nat) : String := (if n < 10 then "0" else "") ++ toString n

def date? (cs : List Char) : Option (String × List Char) := do
  let (year, rest) ← digitsExactly 4 cs
  let (month, rest) ← digitsExactly 2 (← expect '-' rest)
  let (day, rest) ← digitsExactly 2 (← expect '-' rest)
  if Calendar.isDate year month day then
    some (String.ofList (cs.take 10), rest)
  else none

/-- The seconds of a time with their fraction, which may be left out altogether. -/
def seconds? (cs : List Char) : Option (String × List Char) :=
  match cs with
  | ':' :: rest => do
    let (second, rest) ← digitsExactly 2 rest
    if 60 < second then none
    else
      match rest with
      | '.' :: more =>
        let ds := more.takeWhile isDigit
        if ds.isEmpty then none
        else
          let kept := ((ds.take 9).reverse.dropWhile (· == '0')).reverse
          let fraction := if kept.isEmpty then "" else "." ++ String.ofList kept
          some (":" ++ twoDigits second ++ fraction, more.dropWhile isDigit)
      | rest => some (":" ++ twoDigits second, rest)
  | cs => some (":00", cs)

/-- A time of day in its full form, and the rest. -/
def time? (cs : List Char) : Option (String × List Char) := do
  let (hour, rest) ← digitsExactly 2 cs
  let (minute, rest) ← digitsExactly 2 (← expect ':' rest)
  let (seconds, rest) ← seconds? rest
  if hour ≤ 23 ∧ minute ≤ 59 then
    some (twoDigits hour ++ ":" ++ twoDigits minute ++ seconds, rest)
  else none

/-- An offset from universal time, if there is one, up to the end. -/
def offset? : List Char → Option String
  | [] => some ""
  | ['Z'] => some "Z"
  | ['z'] => some "Z"
  | c :: rest =>
    if c = '+' ∨ c = '-' then do
      let (hour, rest) ← digitsExactly 2 rest
      let (minute, rest) ← digitsExactly 2 (← expect ':' rest)
      if hour ≤ 23 ∧ minute ≤ 59 ∧ rest.isEmpty then
        some (String.ofList [c] ++ twoDigits hour ++ ":" ++ twoDigits minute)
      else none
    else none

/-- The member that marks a date or time. -/
def momentKey : String := "$__toml_private_datetime"

/-- A date, a time of day, or both. -/
def moment? (cs : List Char) : Option Datum := do
  let text ← match date? cs with
    | some (date, []) => some date
    | some (date, c :: rest) =>
      if c = 'T' ∨ c = 't' ∨ c = ' ' then do
        let (time, rest) ← time? rest
        some (date ++ "T" ++ time ++ (← offset? rest))
      else none
    | none =>
      match time? cs with
      | some (time, []) => some time
      | _ => none
  some (.object [(momentKey, .string text)])

/-! ## 3. Any scalar -/

def scalar? (cs : List Char) : Option Datum :=
  if cs = "true".toList then some (.bool true)
  else if cs = "false".toList then some (.bool false)
  else integer? cs <|> float? cs <|> moment? cs

end Toml
end ClusterTriage
