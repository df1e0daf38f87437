/-!
# Character classes as ranges of code points

A class is a list of inclusive ranges; a character belongs to it when one of them holds its code
point.
-/

namespace CredentialHelper

/-- A class of characters: inclusive ranges of code points. -/
abbrev CharClass := List (Nat × Nat)

namespace CharClass

def contains (ranges : CharClass) (code : Nat) : Bool :=
  ranges.any fun r => decide (r.1 ≤ code) && decide (code ≤ r.2)

end CharClass

end CredentialHelper
