/-!
# The calendar

Which days there are: months have 28 to 31 days, and every fourth year is a leap year except most
years that end a century.
-/

namespace ClusterTriage
namespace Calendar

/-- Whether a year has a 29th of February. -/
def isLeap (year : Int) : Bool := (year % 4 == 0 && year % 100 != 0) || year % 400 == 0

def monthDays (year : Int) (month : Nat) : Nat :=
  if month = 2 then if isLeap year then 29 else 28
  else if month = 4 ∨ month = 6 ∨ month = 9 ∨ month = 11 then 30 else 31

def isDate (year : Int) (month day : Nat) : Bool :=
  1 ≤ month && month ≤ 12 && 1 ≤ day && day ≤ monthDays year month

end Calendar
end ClusterTriage
