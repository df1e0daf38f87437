import CredentialHelper.Time.Calendar

/-!
# Moments

A moment is a date and time of day in the years 1 to 9999, to the microsecond, with or without the
offset from UTC at which it was read off. `Moment.utc?` gives the instant that it denotes, which
an offset can move out of the range of years.
-/

namespace CredentialHelper

def microsInRange : Nat := 315537897600000000

/-- A time on the scale of UTC: microseconds since the beginning of year 1. -/
abbrev Instant := Fin microsInRange

/-- A date and time of day on a clock whose offset from UTC may be known. -/
structure Moment where
  /-- What the clock shows, as microseconds since the beginning of year 1. -/
  wall : Fin microsInRange
  /-- How many microseconds the clock is ahead of UTC. -/
  offset : Option Int
  deriving DecidableEq, Repr

def wallTime? (micros : Int) : Option (Fin microsInRange) :=
  if h : 0 ≤ micros ∧ micros < microsInRange then some ⟨micros.toNat, by omega⟩ else none

namespace Instant

/-- The instant some seconds later, if it lies in the range of years. -/
def addSeconds? (t : Instant) (seconds : Int) : Option Instant :=
  wallTime? (t.val + seconds * 1000000)

def toMoment (t : Instant) : Moment := ⟨t, some 0⟩

end Instant

namespace Moment

/-- The instant of a moment; a clock whose offset is not known shows UTC. -/
def utc? (m : Moment) : Option Instant :=
  match m.offset with
  | none => some m.wall
  | some offset => wallTime? (m.wall.val - offset)

def ofDate? (d : Date) (micros : Nat) (offset : Option Int) : Option Moment :=
  (wallTime? (d.toDays * 86400000000 + micros)).map (⟨·, offset⟩)

/-- At least `width` digits, zeros in front. -/
def padded (width n : Nat) : String :=
  let digits := toString n
  String.ofList (List.replicate (width - digits.length) '0') ++ digits

/-- Date and time of day, with microseconds only if there are some. -/
def wallText (wall : Fin microsInRange) : String :=
  let d := Date.ofDays (wall.val / 86400000000)
  let micros := wall.val % 86400000000
  let seconds := micros / 1000000
  padded 4 d.year ++ "-" ++ padded 2 d.month ++ "-" ++ padded 2 d.day ++ "T" ++
    padded 2 (seconds / 3600) ++ ":" ++ padded 2 (seconds / 60 % 60) ++ ":" ++
    padded 2 (seconds % 60) ++
    (if micros % 1000000 = 0 then "" else "." ++ padded 6 (micros % 1000000))

def minutesText (negative : Bool) (micros : Nat) : String :=
  let minutes := micros / 60000000
  (if negative then "-" else "+") ++ padded 2 (minutes / 60) ++ ":" ++ padded 2 (minutes % 60)

/-- An offset as sign, hours, minutes and, if there are some, seconds and microseconds. -/
def offsetText (offset : Int) : String :=
  let rest := offset.natAbs % 60000000
  minutesText (offset < 0) offset.natAbs ++
    if rest = 0 then ""
    else ":" ++ padded 2 (rest / 1000000) ++
      if rest % 1000000 = 0 then "" else "." ++ padded 6 (rest % 1000000)

def text (m : Moment) : String := wallText m.wall ++ (m.offset.map offsetText).getD ""

/-- The moment with the hours and minutes of its offset, or `Z` if that is zero. The offset is first
rounded to seconds, half a second away from zero. -/
def stamp (m : Moment) : String :=
  wallText m.wall ++
    match m.offset with
    | none => ""
    | some offset =>
      let micros := offset.natAbs + 500000
      if micros < 1000000 then "Z" else minutesText (offset < 0) micros

end Moment

end CredentialHelper
