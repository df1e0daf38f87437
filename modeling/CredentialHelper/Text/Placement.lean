import CredentialHelper.Text.Hexadecimal
import CredentialHelper.Text.Symbol

/-!
# Where a fault lies

Messages about bytes or texts name the elements from one offset up to another. A single element is
shown itself; of several, or of one that is not there, only the places are given.
-/

namespace CredentialHelper

namespace Placement

/-- The elements from `start` up to `stop`, which is behind the last one. -/
def ofElements (one many : String) (element : Option String) (start stop : Int) : String :=
  match decide (stop = start + 1), element with
  | true, some shown => one ++ " " ++ shown ++ " in position " ++ toString start
  | _, _ => many ++ " in position " ++ toString start ++ "-" ++ toString (stop - 1)

def ofBytes (byte : Option UInt8) : Int → Int → String :=
  ofElements "byte" "bytes" (byte.map fun b => "0x" ++ hexByte b.toNat)

/-- A symbol by its number, in as many digits as it needs of two, four and eight. -/
def symbolNumber (s : Symbol) : String :=
  let digits :=
    if s.code < 0x100 then 'x' :: hexDigits 2 s.code
    else if s.code < 0x10000 then 'u' :: hexDigits 4 s.code
    else 'U' :: hexDigits 8 s.code
  String.ofList ('\'' :: '\\' :: digits ++ ['\''])

def ofSymbols (symbol : Option Symbol) : Int → Int → String :=
  ofElements "character" "characters" (symbol.map symbolNumber)

end Placement

end CredentialHelper
