import CredentialHelper.Text.CharRange
import CredentialHelper.Text.Symbol

/-!
# Blank characters and trimming

White space in the wide sense: the ASCII blanks, the four information separators, and every
character of the separator class for spaces. U+200B and U+FEFF are not blank.
-/

namespace CredentialHelper

def blanks : CharClass := [
  (0x9, 0xd), (0x1c, 0x20), (0x85, 0x85), (0xa0, 0xa0), (0x1680, 0x1680), (0x2000, 0x200a),
  (0x2028, 0x2029), (0x202f, 0x202f), (0x205f, 0x205f), (0x3000, 0x3000)]

namespace Blank

def isBlank (c : Char) : Bool := blanks.contains c.toNat

def isBlankSymbol : Symbol → Bool := Symbol.isIn isBlank

def trimStart (t : Text) : Text := t.dropWhile isBlankSymbol

def trimEnd (t : Text) : Text := (trimStart t.reverse).reverse

def strip (t : Text) : Text := trimEnd (trimStart t)

end Blank

end CredentialHelper
