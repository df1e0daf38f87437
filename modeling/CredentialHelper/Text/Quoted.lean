import CredentialHelper.Text.Printable
import CredentialHelper.Text.Decoding

/-!
# Quoted texts

The form in which a message shows a text as data: single quotes, or double quotes if the text
holds single quotes only; the backslash, the quote and everything unprintable are escaped. Bytes
are shown in the same way behind a `b`, one escape for each byte outside printable ASCII.
-/

namespace CredentialHelper.Quoted

/-- Double quotes stand around what holds single quotes and no double ones. -/
def quoteFor (single double : Bool) : Char :=
  if single && !double then '"' else '\''

def element (quote : Char) (code : Nat) : List Char :=
  if code = quote.toNat ∨ code = 0x5C then ['\\', Char.ofNat code]
  else if code = 9 then ['\\', 't']
  else if code = 10 then ['\\', 'n']
  else if code = 13 then ['\\', 'r']
  else if isPrintable code then [Char.ofNat code]
  else if code < 0x100 then ['\\', 'x'] ++ hexDigits 2 code
  else if code < 0x10000 then ['\\', 'u'] ++ hexDigits 4 code
  else ['\\', 'U'] ++ hexDigits 8 code

def text (t : Text) : String :=
  let quote := quoteFor (t.contains (.char '\'')) (t.contains (.char '"'))
  String.ofList (quote :: t.flatMap (element quote ·.code) ++ [quote])

def string (s : String) : String := text (Text.ofString s)

def byteElement (quote : Char) (b : UInt8) : List Char :=
  if b.toNat < 0x80 then element quote b.toNat else ['\\', 'x'] ++ hexDigits 2 b.toNat

def bytes (bs : Bytes) : String :=
  let quote := quoteFor (bs.contains 0x27) (bs.contains 0x22)
  String.ofList ('b' :: quote :: bs.flatMap (byteElement quote) ++ [quote])

end CredentialHelper.Quoted
