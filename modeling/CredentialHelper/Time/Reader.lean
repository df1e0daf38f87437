import CredentialHelper.Number.Quantity
import CredentialHelper.Text.Utf8
import CredentialHelper.Time.Moment

/-!
# Reading moments

A moment is read from a date and time with an optional offset, from a date alone, or from a count
of seconds or milliseconds since 1970. The reader works on UTF-8 bytes, of which a minus sign may
take three. Dates of the year 0 can be read but are no moments.
-/

namespace CredentialHelper.MomentReader

inductive Flaw where
  | tooShort
  | year
  | month
  | day
  | dateSeparator
  | monthRange
  | dayRange
  | yearRange
  | extraCharacters
  | notExact
  | beforeRange
  | afterRange
  | notANumber
  deriving DecidableEq, Repr

def Flaw.message : Flaw → String
  | .tooShort => "input is too short"
  | .year => "invalid character in year"
  | .month => "invalid character in month"
  | .day => "invalid character in day"
  | .dateSeparator => "invalid date separator, expected `-`"
  | .monthRange => "month value is outside expected range of 1-12"
  | .dayRange => "day value is outside expected range"
  | .yearRange => "year 0 is out of range"
  | .extraCharacters => "unexpected extra characters at the end of the input"
  | .notExact => "datetime input should have time set to zero for date"
  | .beforeRange => "dates before 0000 are not supported as unix timestamps"
  | .afterRange => "dates after 9999 are not supported as unix timestamps"
  | .notANumber => "NaN values not permitted"

def digit? (b : UInt8) : Option Nat :=
  if 0x30 ≤ b ∧ b ≤ 0x39 then some (b.toNat - 0x30) else none

def pair? (a b : UInt8) : Option Nat := do return (← digit? a) * 10 + (← digit? b)

private def dash : UInt8 := 0x2D

def date (bytes : Bytes) : Except Flaw (Date × Bytes) :=
  match bytes with
  | a :: b :: c :: d :: s :: e :: f :: s' :: g :: h :: rest =>
    match pair? a b, pair? c d with
    | some century, some years =>
      if s ≠ dash then .error .dateSeparator
      else match pair? e f with
        | none => .error .month
        | some month =>
          if s' ≠ dash then .error .dateSeparator
          else match pair? g h with
            | none => .error .day
            | some day =>
              let year := century * 100 + years
              if month < 1 ∨ 12 < month then .error .monthRange
              else if day < 1 ∨ Calendar.daysInMonth year month < day then .error .dayRange
              else .ok (⟨year, month, day⟩, rest)
    | _, _ => .error .year
  | _ => .error .tooShort

/-- Up to six digits of a fraction as microseconds; further digits are dropped. -/
def fractionMicros (ds : List Nat) : Nat :=
  ((ds ++ List.replicate 6 0).take 6).foldl (fun n d => n * 10 + d) 0

def offset? (bytes : Bytes) : Option (Option Int) :=
  let signed (sign : Int) (rest : Bytes) : Option (Option Int) :=
    let build (h1 h2 m1 m2 : UInt8) : Option (Option Int) := do
      let hours ← pair? h1 h2
      let minutes ← pair? m1 m2
      if minutes < 60 ∧ hours < 24 then some (some (sign * ((hours * 60 + minutes) * 60000000)))
      else none
    match rest with
    | [h1, h2, m1, m2] => build h1 h2 m1 m2
    | [h1, h2, 0x3A, m1, m2] => build h1 h2 m1 m2
    | _ => none
  match bytes with
  | [] => some none
  | [0x5A] => some (some 0)
  | [0x7A] => some (some 0)
  | 0x2B :: rest => signed 1 rest
  | 0x2D :: rest => signed (-1) rest
  | 0xE2 :: 0x88 :: 0x92 :: rest => signed (-1) rest
  | _ => none

def time? (bytes : Bytes) : Option (Nat × Option Int) :=
  match bytes with
  | h1 :: h2 :: 0x3A :: m1 :: m2 :: rest => do
    let hour ← pair? h1 h2
    let minute ← pair? m1 m2
    if 23 < hour ∨ 59 < minute then none
    else
      let base := hour * 3600 + minute * 60
      match rest with
      | 0x3A :: s1 :: s2 :: rest => do
        let second ← pair? s1 s2
        if 59 < second then none
        else match rest with
          | p :: rest' =>
            if p = 0x2E ∨ p = 0x2C then
              let ds := (rest'.takeWhile fun b => (digit? b).isSome).filterMap digit?
              if ds.isEmpty then none
              else
                let offset ← offset? (rest'.drop ds.length)
                some ((base + second) * 1000000 + fractionMicros ds, offset)
            else
              let offset ← offset? rest
              some ((base + second) * 1000000, offset)
          | [] => some ((base + second) * 1000000, none)
      | rest => do
        let offset ← offset? rest
        some (base * 1000000, offset)
  | _ => none

def isSeparator (b : UInt8) : Bool := b == 0x54 || b == 0x74 || b == 0x20 || b == 0x5F

def dateTime? (bytes : Bytes) : Option (Date × Nat × Option Int) :=
  match date bytes with
  | .ok (d, s :: rest) =>
    if isSeparator s then do
      let (micros, offset) ← time? rest
      some (d, micros, offset)
    else none
  | _ => none

/-- The moment of a date and a time of day. There is none in the year 0. -/
def ofDate (d : Date) (micros : Nat) (offset : Option Int) : Except Flaw Moment :=
  if d.year = 0 then .error .yearRange
  else match Moment.ofDate? d micros offset with
    | some m => .ok m
    | none => .error .yearRange

/-! ## Counts -/

/-- Counts of more than this many units are milliseconds, others are seconds. -/
def secondsLimit : Nat := 20000000000

def epoch : Int := 62135596800

/-- The seconds of the year 0, which is a leap year. -/
def yearZero : Int := 31622400

def ofSeconds (seconds : Int) (micros : Nat) : Except Flaw Moment :=
  let seconds := seconds + epoch + (micros / 1000000 : Nat)
  if seconds < -yearZero then .error .beforeRange
  else if seconds < 0 then .error .yearRange
  else match wallTime? (seconds * 1000000 + (micros % 1000000 : Nat)) with
    | some wall => .ok ⟨wall, some 0⟩
    | none => .error .afterRange

def ofMillis (millis : Int) (micros : Nat) : Except Flaw Moment :=
  ofSeconds (Int.fdiv millis 1000) ((Int.fmod millis 1000).toNat * 1000 + micros)

def ofInt (n : Int) : Except Flaw Moment :=
  if n.natAbs ≤ secondsLimit then ofSeconds n 0 else ofMillis n 0

/-- The moment of a floating-point number, to the nearest microsecond: the integer below it and its
distance from that integer. -/
def ofFloat (x : Binary64) : Except Flaw Moment :=
  match x with
  | .nan => .error .notANumber
  | .infinite negative => .error (if negative then .beforeRange else .afterRange)
  | .finite _ m e =>
    let whole := x.floor?.getD 0
    if (Binary64.finite false m e).le (.ofInt secondsLimit) then
      ofSeconds whole (x.part.scaled 1000000)
    else ofMillis whole (x.part.scaled 1000)

def ofQuantity : Quantity → Except Flaw Moment
  | .whole n => ofInt n
  | .real x => ofFloat x

private def value (ds : List Nat) : Nat := ds.foldl (fun n d => n * 10 + d) 0

def exponent? (bytes : Bytes) : Option Int :=
  let unsigned (rest : Bytes) : Option Nat := do
    let ds ← rest.mapM digit?
    if ds.isEmpty then none else some (value ds)
  let signed (rest : Bytes) : Option Int :=
    match rest with
    | 0x2D :: rest => (unsigned rest).map fun n => -(n : Int)
    | 0x2B :: rest => (unsigned rest).map fun n => (n : Int)
    | rest => (unsigned rest).map fun n => (n : Int)
  match bytes with
  | [] => some 0
  | 0x45 :: rest => signed rest
  | 0x65 :: rest => signed rest
  | _ => none

/-- The number that a text writes: an optional sign and digits, which 64 bits have to hold, and
behind a point more digits and an exponent. -/
def number? (bytes : Bytes) : Option Quantity :=
  let (negative, body) : Bool × Bytes := match bytes with
    | 0x2D :: rest => (true, rest)
    | 0x2B :: rest => (false, rest)
    | rest => (false, rest)
  let isDigit (b : UInt8) : Bool := (digit? b).isSome
  let whole := (body.takeWhile isDigit).filterMap digit?
  let n : Int := if negative then -(value whole) else value whole
  if n < -9223372036854775808 ∨ 9223372036854775807 < n then none
  else match body.dropWhile isDigit with
    | [] => if whole.isEmpty then none else some (.whole n)
    | 0x2E :: rest =>
      let places := (rest.takeWhile isDigit).filterMap digit?
      let digits := whole ++ places
      if digits.isEmpty then none
      else (exponent? (rest.dropWhile isDigit)).map fun exponent =>
        .real (Binary64.ofDecimal negative (value digits) (exponent - places.length))
    | _ => none

/-! ## Texts -/

/-- The moment of a date alone. The failure of a number that the text writes as an integer is
preferred to that of the date. -/
def ofDateText (bytes : Bytes) (number : Option Quantity) : Except Flaw Moment :=
  let failure (flaw : Flaw) : Except Flaw Moment :=
    match number with
    | some (.whole n) => match ofInt n with
      | .error range => .error range
      | .ok _ => .error flaw
    | _ => .error flaw
  match date bytes with
  | .ok (d, []) => ofDate d 0 none
  | .ok (_, _ :: _) => failure .extraCharacters
  | .error flaw => failure flaw

/-- The moment of a text: a date and time, a number, or a date, tried in this order. The failure
is that of the date, unless the moment lies in the year 0. -/
def ofString (s : String) : Except Flaw Moment :=
  let bytes := Utf8.encode s
  match dateTime? bytes with
  | some (d, micros, offset) => ofDate d micros offset
  | none =>
    let number := number? bytes
    match number.map ofQuantity with
    | some (.ok m) => .ok m
    | some (.error .yearRange) => .error .yearRange
    | _ => ofDateText bytes number

end CredentialHelper.MomentReader
