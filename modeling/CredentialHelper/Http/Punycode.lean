/-!
# Punycode

A text is written in ASCII as its ASCII characters and, behind a hyphen, where the others go: code
points in rising order, each by its distance from the one before, counted over all places in the
text. Distances are numbers of base 36 whose digits have bounds that adapt to the text.
-/

namespace CredentialHelper.Punycode

/-! ## Digits -/

def digit (n : Nat) : Char := if n < 26 then Char.ofNat (97 + n) else Char.ofNat (22 + n)

def value? (c : Char) : Option Nat :=
  if 'a' ≤ c ∧ c ≤ 'z' then some (c.toNat - 97)
  else if '0' ≤ c ∧ c ≤ '9' then some (c.toNat - 22)
  else none

/-- The bound of a digit at a weight: a smaller digit is the last one. -/
def threshold (k bias : Nat) : Nat :=
  if k ≤ bias then 1 else if bias + 26 ≤ k then 26 else k - bias

theorem one_le_threshold (k bias : Nat) : 1 ≤ threshold k bias := by
  unfold threshold
  split
  · omega
  · split <;> omega

def distanceDigits (bias k n : Nat) : List Char :=
  let t := threshold k bias
  if n < t then [digit n]
  else digit (t + (n - t) % (36 - t)) :: distanceDigits bias (k + 36) ((n - t) / (36 - t))
termination_by n
decreasing_by
  have := one_le_threshold k bias
  exact Nat.lt_of_le_of_lt (Nat.div_le_self _ _) (by omega)

def readDistance (bias k weight read : Nat) : List Char → Option (Nat × List Char)
  | [] => none
  | c :: cs => do
    let n ← value? c
    let read := read + n * weight
    let t := threshold k bias
    if n < t then return (read, cs) else readDistance bias (k + 36) (weight * (36 - t)) read cs

theorem length_of_readDistance {bias k weight read n : Nat} {cs rest : List Char}
    (h : readDistance bias k weight read cs = some (n, rest)) : rest.length < cs.length := by
  induction cs generalizing k weight read with
  | nil => simp [readDistance] at h
  | cons c cs ih =>
    simp only [readDistance, Option.bind_eq_bind, Option.bind_eq_some_iff] at h
    obtain ⟨m, -, h⟩ := h
    split at h
    · cases h
      simp
    · exact Nat.lt_succ_of_lt (ih h)

/-! ## Bounds -/

/-- Divides by 35 until the distance is small; counts in steps of 36. -/
def shrink (distance k : Nat) : Nat × Nat :=
  if 455 < distance then shrink (distance / 35) (k + 36) else (distance, k)
termination_by distance
decreasing_by exact Nat.div_lt_self (by omega) (by omega)

/-- The bias after a distance, with the number of characters so far. -/
def adapt (distance points : Nat) (first : Bool) : Nat :=
  let distance := if first then distance / 700 else distance / 2
  let (distance, k) := shrink (distance + distance / points) 0
  k + 36 * distance / (distance + 38)

/-! ## Writing -/

structure Progress where
  output : List Char
  distance : Nat
  bias : Nat
  handled : Nat

def pass (basic m : Nat) (p : Progress) (c : Char) : Progress :=
  if c.toNat < m then { p with distance := p.distance + 1 }
  else if c.toNat = m then
    ⟨p.output ++ distanceDigits p.bias 36 p.distance, 0,
      adapt p.distance (p.handled + 1) (p.handled == basic), p.handled + 1⟩
  else p

/-- Inserts the code points in rising order; `n` is the least one not yet looked at. -/
def insertAll (text : List Char) (basic : Nat) : List Nat → Nat → Progress → Progress
  | [], _, p => p
  | m :: rest, n, p =>
    let p := { p with distance := p.distance + (m - n) * (p.handled + 1) }
    let p := text.foldl (pass basic m) p
    insertAll text basic rest (m + 1) { p with distance := p.distance + 1 }

def insertSorted (x : Nat) : List Nat → List Nat
  | [] => [x]
  | y :: ys => if x < y then x :: y :: ys else if x = y then y :: ys else y :: insertSorted x ys

def isBasic (c : Char) : Bool := decide (c.toNat < 0x80)

def encode (text : List Char) : List Char :=
  let basic := text.filter isBasic
  let others := (text.filter fun c => !isBasic c).foldr (fun c l => insertSorted c.toNat l) []
  let begun := basic ++ (if basic.isEmpty then [] else ['-'])
  (insertAll text basic.length others 0x80 ⟨begun, 0, 72, basic.length⟩).output

/-! ## Reading -/

/-- Inserts the characters that digits name. The last character was the code point `code`, and the
next one may go to `place`. -/
def insertFrom (bias code place : Nat) (first : Bool) (text digits : List Char) :
    Option (List Char) :=
  if digits.isEmpty then some text
  else
    match _h : readDistance bias 36 1 0 digits with
    | none => none
    | some (distance, rest) =>
      let count := text.length + 1
      let code := code + (place + distance) / count
      let place := (place + distance) % count
      if code.isValidChar then
        insertFrom (adapt distance count first) code (place + 1) false
          (text.take place ++ Char.ofNat code :: text.drop place) rest
      else none
termination_by digits.length
decreasing_by exact length_of_readDistance _h

def decode (cs : List Char) : Option (List Char) :=
  let digits := (cs.reverse.takeWhile (· != '-')).reverse
  insertFrom 72 0x80 0 true (cs.take (cs.length - digits.length - 1)) digits

end CredentialHelper.Punycode
