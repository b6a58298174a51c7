/-!
# Durations in words

A duration is written in the greatest unit that leaves something before the point, with as many
digits after the point as it needs.
-/

namespace ClusterTriage
namespace Duration

/-- The digits of a fraction with `places` places, without zeros at the end. -/
def fractionDigits (places n : Nat) : List Char :=
  let ds := Nat.toDigits 10 n
  let padded := List.replicate (places - ds.length) '0' ++ ds
  (padded.reverse.dropWhile (· == '0')).reverse

/-- `whole` and `fraction` out of `10 ^ places`, in a unit. -/
def inUnit (whole fraction places : Nat) (unit : String) : String :=
  let ds := fractionDigits places fraction
  toString whole ++ (if ds.isEmpty then "" else String.ofList ('.' :: ds)) ++ unit

/-- A duration of so many nanoseconds, in words. -/
def describe (nanoseconds : Nat) : String :=
  if 1000000000 ≤ nanoseconds then
    inUnit (nanoseconds / 1000000000) (nanoseconds % 1000000000) 9 "s"
  else if 1000000 ≤ nanoseconds then
    inUnit (nanoseconds / 1000000) (nanoseconds % 1000000) 6 "ms"
  else if 1000 ≤ nanoseconds then
    inUnit (nanoseconds / 1000) (nanoseconds % 1000) 3 "µs"
  else inUnit nanoseconds 0 0 "ns"

end Duration
end ClusterTriage
