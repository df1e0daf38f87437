import CredentialHelper.Failure.Cause
import CredentialHelper.Number.Quantity
import CredentialHelper.Text.Case

/-!
# Similar texts

Two texts are compared by matching blocks: the longest common block, then the longest ones before
and behind it, and so on. Twice the matched length over the total length is their similarity. In a
target of 200 symbols or more, a symbol that makes up over one in a hundred of them does
not start or continue a block, and only prolongs one at its ends. `Similarity.closest` picks the
most similar candidates, and `suggestSimilar` does so regardless of letter case.
-/

namespace CredentialHelper

namespace Similarity

/-- The symbols of a long target that are too frequent to find blocks by. -/
def frequent (target : Text) : Symbol → Bool :=
  if 200 ≤ target.length then fun c => decide (target.length / 100 + 1 < target.count c)
  else fun _ => false

/-- A common block: its places in the two texts and its length. -/
structure Block where
  first : Nat
  second : Nat
  size : Nat
  deriving DecidableEq, Repr

/-- For each place in `target`, the length of the common block that ends there and at `c`, given
those that end one place before; `corner` is the length that ends before both. -/
def extendRow (skip : Symbol → Bool) (c : Symbol) : Text → Nat → List Nat → List Nat
  | [], _, _ => []
  | t :: target, corner, previous =>
    (if c = t ∧ skip t = false then corner + 1 else 0) ::
      extendRow skip c target (previous.headD 0) (previous.drop 1)

/-- The better of a block and those that end at the place `(i, j)` and behind it in a row. -/
def bestInRow (i : Nat) : Nat → List Nat → Block → Block
  | _, [], best => best
  | j, size :: row, best =>
    bestInRow i (j + 1) row (if best.size < size then ⟨i + 1 - size, j + 1 - size, size⟩ else best)

/-- The first longest block over the rows from place `i` on. -/
def bestBlock (skip : Symbol → Bool) (target : Text) : Nat → Text → List Nat → Block → Block
  | _, [], _, best => best
  | i, c :: cs, previous, best =>
    let row := extendRow skip c target 0 previous
    bestBlock skip target (i + 1) cs row (bestInRow i 0 row best)

def commonLength : Text → Text → Nat
  | a :: as, b :: bs => if a = b then commonLength as bs + 1 else 0
  | _, _ => 0

/-- The longest block, prolonged at both ends by equal symbols of any kind. -/
def longestBlock (skip : Symbol → Bool) (word target : Text) : Block :=
  let b := bestBlock skip target 0 word [] ⟨0, 0, 0⟩
  let back := commonLength (word.take b.first).reverse (target.take b.second).reverse
  let ahead := commonLength (word.drop (b.first + b.size)) (target.drop (b.second + b.size))
  ⟨b.first - back, b.second - back, back + b.size + ahead⟩

/-- The total length of the matching blocks. The fuel bounds the depth of the division; the length
of the word is enough. -/
def matched (skip : Symbol → Bool) : Nat → Text → Text → Nat
  | 0, _, _ => 0
  | fuel + 1, word, target =>
    if word.isEmpty || target.isEmpty then 0
    else
      let b := longestBlock skip word target
      if b.size = 0 then 0
      else
        matched skip fuel (word.take b.first) (target.take b.second) + b.size +
          matched skip fuel (word.drop (b.first + b.size)) (target.drop (b.second + b.size))

/-- The similarity of a word to a target, between 0 and 1; two empty texts are alike. -/
def ratio (word target : Text) : Binary64 :=
  let total := word.length + target.length
  if total = 0 then Binary64.ofInt 1
  else Binary64.ofFraction false (2 * matched (frequent target) word.length word target) total

/-- The more similar candidate comes first, and of equally similar ones the greater word. -/
def precedes (a b : Binary64 × Text) : Bool :=
  b.1.lt a.1 || (!a.1.lt b.1 && Text.precedes b.2 a.2)

/-- Up to `limit` candidates that are at least as similar to the target as the cutoff, the most
similar first. -/
def closest (target : Text) (candidates : List Text) (limit : Int) (cutoff : Quantity) :
    Except Cause (List Text) :=
  if limit ≤ 0 then .error (.argument ("n must be > 0: " ++ toString limit))
  else if !(Binary64.ofInt 0).le cutoff.value || !cutoff.value.le (Binary64.ofInt 1) then
    .error (.argument ("cutoff must be in [0.0, 1.0]: " ++ cutoff.text))
  else
    let scored := (candidates.map fun c => (ratio c target, c)).filter fun p => cutoff.value.le p.1
    .ok (((scored.mergeSort precedes).take limit.toNat).map (·.2))

def putUnder (key value : Text) : List (Text × Text) → List (Text × Text)
  | [] => [(key, value)]
  | (k, v) :: rest => if k = key then (k, value) :: rest else (k, v) :: putUnder key value rest

/-- The candidates under their lower-case forms; of two with the same form the later one counts. -/
def byLowercase (candidates : List Text) : List (Text × Text) :=
  candidates.foldl (fun table c => putUnder (lowercase c) c table) []

end Similarity

open Similarity in
def suggestSimilar (target : Text) (candidates : List Text) (limit : Int) (cutoff : Quantity) :
    Except Cause (List Text) := do
  let table := byLowercase candidates
  let found ← closest (lowercase target) (table.map (·.1)) limit cutoff
  return found.filterMap fun form => table.lookup form

end CredentialHelper
