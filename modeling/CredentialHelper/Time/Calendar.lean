/-!
# Calendar

Dates of the Gregorian calendar and the count of days since the first day of year 1. `ofDays` is
the inverse of `toDays` on the dates that exist.
-/

namespace CredentialHelper

structure Date where
  year : Nat
  month : Nat
  day : Nat
  deriving DecidableEq, Repr

namespace Calendar

def isLeap (year : Nat) : Bool :=
  year % 4 == 0 && (year % 100 != 0 || year % 400 == 0)

def daysInMonth (year month : Nat) : Nat :=
  if month = 2 then (if isLeap year then 29 else 28)
  else if month = 4 ∨ month = 6 ∨ month = 9 ∨ month = 11 then 30
  else if 1 ≤ month ∧ month ≤ 12 then 31
  else 0

def daysBeforeYear (year : Nat) : Nat :=
  let y := year - 1
  365 * y + y / 4 - y / 100 + y / 400

def daysBeforeMonth (year : Nat) : Nat → Nat
  | 0 => 0
  | month + 1 => daysBeforeMonth year month + daysInMonth year month

end Calendar

namespace Date

open Calendar

def isValid (d : Date) : Bool :=
  decide (1 ≤ d.year) && decide (d.year ≤ 9999) && decide (1 ≤ d.month) && decide (d.month ≤ 12) &&
    decide (1 ≤ d.day) && decide (d.day ≤ daysInMonth d.year d.month)

def toDays (d : Date) : Nat :=
  daysBeforeYear d.year + daysBeforeMonth d.year d.month + (d.day - 1)

/-- The month that holds the `n`-th day of a year, counted from zero, and the day in it. -/
def monthOf (year n : Nat) : Nat → Nat × Nat
  | 0 => (1, n + 1)
  | month + 1 =>
    if daysBeforeMonth year (month + 1) ≤ n then
      (month + 1, n - daysBeforeMonth year (month + 1) + 1)
    else monthOf year n month

def ofDays (n : Nat) : Date :=
  let cycles := n / 146097
  let n := n % 146097
  let centuries := min (n / 36524) 3
  let n := n - 36524 * centuries
  let quads := n / 1461
  let n := n % 1461
  let years := min (n / 365) 3
  let n := n - 365 * years
  let year := 400 * cycles + 100 * centuries + 4 * quads + years + 1
  let (month, day) := monthOf year n 12
  ⟨year, month, day⟩

end Date

end CredentialHelper
