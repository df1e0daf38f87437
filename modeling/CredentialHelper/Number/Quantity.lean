import CredentialHelper.Number.Shortest

/-!
# Quantities

A number as it was given, which is an integer or a floating-point number.
-/

namespace CredentialHelper

inductive Quantity where
  | whole (n : Int)
  | real (x : Binary64)
  deriving DecidableEq, Repr

namespace Quantity

def value : Quantity → Binary64
  | .whole n => Binary64.ofInt n
  | .real x => x

def text : Quantity → String
  | .whole n => toString n
  | .real x => x.text

end Quantity

end CredentialHelper
