/-!
# Binary floating point, 64 bits wide

A number is a sign and an integer times a power of two, in lowest precision terms: 53 bits at most,
and fewer only at the least exponent. Every operation is exact integer arithmetic followed by one
rounding to the nearest number, ties to the even significand.
-/

namespace CredentialHelper

/-- A 64-bit floating-point number. A finite one is `± significand * 2 ^ exponent` with
`significand < 2 ^ 53` and `-1074 ≤ exponent`, and `2 ^ 52 ≤ significand` unless the exponent is
`-1074`. -/
inductive Binary64 where
  | nan
  | infinite (negative : Bool)
  | finite (negative : Bool) (significand : Nat) (exponent : Int)
  deriving DecidableEq, Repr, Inhabited

namespace Binary64

/-- The quotient rounded to the nearest integer, ties to the even one. -/
def roundDiv (num den : Nat) : Nat :=
  let q := num / den
  let r := num % den
  if 2 * r < den then q
  else if den < 2 * r then q + 1
  else q + q % 2

def powerOfTwo (e : Int) : Nat × Nat :=
  if 0 ≤ e then (Nat.pow 2 e.toNat, 1) else (1, Nat.pow 2 (-e).toNat)

/-- The number nearest to `± num / den`. -/
def ofFraction (negative : Bool) (num den : Nat) : Binary64 :=
  if num = 0 then .finite negative 0 (-1074)
  else
    -- `num / den` lies strictly between `2 ^ (e - 1)` and `2 ^ (e + 1)`
    let e : Int := (Nat.log2 num : Int) - (Nat.log2 den : Int)
    let unit (q : Int) : Nat × Nat :=
      let p := powerOfTwo q
      (num * p.2, den * p.1)
    let low := unit (e - 53)
    let q := max (if low.1 / low.2 < Nat.pow 2 53 then e - 53 else e - 52) (-1074)
    let scaled := unit q
    let m := roundDiv scaled.1 scaled.2
    let (m, q) := if m = Nat.pow 2 53 then (Nat.pow 2 52, q + 1) else (m, q)
    if 971 < q then .infinite negative else .finite negative m q

def ofDecimal (negative : Bool) (digits : Nat) (exponent : Int) : Binary64 :=
  let size : Int := (Nat.toDigits 10 digits).length
  if digits = 0 ∨ exponent + size < -400 then .finite negative 0 (-1074)
  else if 400 < exponent + size then .infinite negative
  else if 0 ≤ exponent then ofFraction negative (digits * Nat.pow 10 exponent.toNat) 1
  else ofFraction negative digits (Nat.pow 10 (-exponent).toNat)

def ofInt (n : Int) : Binary64 := ofFraction (n < 0) n.natAbs 1

def toFraction? : Binary64 → Option (Int × Nat)
  | .finite negative m e =>
    let p := powerOfTwo e
    some ((if negative then -(m * p.1 : Int) else (m * p.1 : Int)), p.2)
  | _ => none

def truncate? (x : Binary64) : Option Int :=
  x.toFraction?.map fun f => Int.tdiv f.1 f.2

def floor? (x : Binary64) : Option Int :=
  x.toFraction?.map fun f => Int.fdiv f.1 f.2

def part (x : Binary64) : Binary64 :=
  match x.toFraction? with
  | some (num, den) => ofFraction false (Int.fmod num den).toNat den
  | none => .nan

/-- A number times a natural number, rounded to an integer with halves going up in size; zero for a
number that is not finite. -/
def scaled (factor : Nat) (x : Binary64) : Nat :=
  match x with
  | .finite negative m e =>
    let p := powerOfTwo e
    match ofFraction negative (m * p.1 * factor) p.2 with
    | .finite _ m e =>
      let p := powerOfTwo e
      (2 * m * p.1 + p.2) / (2 * p.2)
    | _ => 0
  | _ => 0

def isZero : Binary64 → Bool
  | .finite _ m _ => m == 0
  | _ => false

/-- `x ≤ y` in the order of the numbers; false if one of them is not a number. -/
def le : Binary64 → Binary64 → Bool
  | .nan, _ => false
  | _, .nan => false
  | .infinite true, _ => true
  | _, .infinite false => true
  | .infinite false, _ => false
  | _, .infinite true => false
  | x@(.finite ..), y@(.finite ..) =>
    match x.toFraction?, y.toFraction? with
    | some (a, b), some (c, d) => decide (a * d ≤ c * b)
    | _, _ => false

def lt (x y : Binary64) : Bool := le x y && !le y x

end Binary64

end CredentialHelper
