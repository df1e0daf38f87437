import CredentialHelper.Number.Binary64

/-!
# Shortest decimal text

A floating-point number is written with the fewest digits that read back as the same number, and
of the shortest such texts the nearest. The point stands among the digits while the first of them
is worth at least `10 ^ (-4)` and less than `10 ^ 16`; otherwise an exponent follows.
-/

namespace CredentialHelper

namespace Shortest

/-- The real numbers that round to a given number, as integers over a common denominator. -/
structure Interval where
  low : Nat
  value : Nat
  high : Nat
  den : Nat
  /-- Whether the ends belong to it. -/
  closed : Bool

/-- The interval of `m * 2 ^ e`: half way to the neighbours, nearer below a power of two. -/
def interval (m : Nat) (e : Int) : Interval :=
  let p := Binary64.powerOfTwo (e - 2)
  let below := if m = Nat.pow 2 52 ∧ -1074 < e then 1 else 2
  ⟨(4 * m - below) * p.1, 4 * m * p.1, (4 * m + 2) * p.1, p.2, m % 2 = 0⟩

def Interval.holds (i : Interval) (num den : Nat) : Bool :=
  let x := num * i.den
  let low := i.low * den
  let high := i.high * den
  if i.closed then decide (low ≤ x) && decide (x ≤ high)
  else decide (low < x) && decide (x < high)

/-- The least `k` with `value < 10 ^ k`, found near the estimate. -/
def magnitude (i : Interval) : Int :=
  let bits : Int := (Nat.log2 i.value : Int) - (Nat.log2 i.den : Int)
  let guess := Int.fdiv (bits * 30103) 100000
  let below (k : Int) : Bool :=
    if 0 ≤ k then decide (i.value < i.den * Nat.pow 10 k.toNat)
    else decide (i.value * Nat.pow 10 (-k).toNat < i.den)
  if below (guess - 1) then guess - 1
  else if below guess then guess
  else if below (guess + 1) then guess + 1
  else guess + 2

/-- The decimals `n * 10 ^ s` next to the value on the grid of `10 ^ s` that read back, nearest
first. -/
def onGrid (i : Interval) (s : Int) : Option Nat :=
  let (up, down) := if 0 ≤ s then (Nat.pow 10 s.toNat, 1) else (1, Nat.pow 10 (-s).toNat)
  -- the value in units of the grid is `num / den`
  let num := i.value * down
  let den := i.den * up
  let floor := num / den
  let fits (n : Nat) : Bool := i.holds (n * up) down
  if num % den = 0 then some floor
  else
    let nearUp := decide (den < 2 * (num % den)) || (2 * (num % den) == den && floor % 2 == 1)
    let first := if nearUp then floor + 1 else floor
    let second := if nearUp then floor else floor + 1
    if fits first then some first else if fits second then some second else none

/-- The first hit over grids of one digit more each. Seventeen digits always hit, so that the value
given for no hit does not matter, except that it is no zero. -/
def search (i : Interval) (k : Int) : Nat → Nat → Nat × Int
  | 0, count => ((onGrid i (k - count)).getD 1, k - count)
  | fuel + 1, count =>
    match onGrid i (k - count) with
    | some n => (n, k - count)
    | none => search i k fuel (count + 1)

/-- The shortest digits of a positive number and the power of ten that they count. -/
def digits (m : Nat) (e : Int) : Nat × Int :=
  let i := interval m e
  search i (magnitude i) 17 1

/-- Digits without trailing zeros; each zero taken off raises the power. -/
def dropZeros : List Char → List Char
  | cs => (cs.reverse.dropWhile (· == '0')).reverse

/-- A positive decimal, given by its digits without trailing zeros and the power of ten of the
place before the first digit. -/
def layout (ds : List Char) (point : Int) : String :=
  if -4 < point ∧ point ≤ 16 then
    if point ≤ 0 then "0." ++ String.ofList (List.replicate (-point).toNat '0' ++ ds)
    else
      let whole := ds.take point.toNat
      let rest := ds.drop point.toNat
      String.ofList (whole ++ List.replicate (point.toNat - whole.length) '0') ++ "." ++
        (if rest.isEmpty then "0" else String.ofList rest)
  else
    let exponent := point - 1
    let size := toString exponent.natAbs
    String.ofList (ds.take 1) ++ (if ds.length ≤ 1 then "" else "." ++ String.ofList (ds.drop 1)) ++
      "e" ++ (if exponent < 0 then "-" else "+") ++ (if size.length < 2 then "0" ++ size else size)

end Shortest

namespace Binary64

def text : Binary64 → String
  | .nan => "nan"
  | .infinite negative => if negative then "-inf" else "inf"
  | .finite negative m e =>
    (if negative then "-" else "") ++
      (if m = 0 then "0.0"
       else
        let (n, s) := Shortest.digits m e
        let all := Nat.toDigits 10 n
        Shortest.layout (Shortest.dropZeros all) (s + all.length))

end Binary64

end CredentialHelper
