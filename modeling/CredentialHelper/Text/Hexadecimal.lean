/-!
# Hexadecimal digits

Numbers in lower-case hexadecimal digits of a given count; digits in front of them are left out.
-/

namespace CredentialHelper

/-- The last `width` hexadecimal digits of a number. -/
def hexDigits : Nat → Nat → List Char
  | 0, _ => []
  | width + 1, n => hexDigits width (n / 16) ++ [Nat.digitChar (n % 16)]

def hexByte (n : Nat) : String := String.ofList (hexDigits 2 n)

end CredentialHelper
