import CredentialHelper.Text.Utf8

/-!
# Bytes of an unnamed encoding form

A text that starts with an ASCII character shows its encoding form in its first four bytes: a byte
order mark, or the places of the zero bytes. `Detection.decode` finds the form and decodes.
Surrogates pass unpaired in every form.
-/

namespace CredentialHelper

namespace Utf16

def unit (bigEndian : Bool) (a b : UInt8) : Nat :=
  if bigEndian then a.toNat * 256 + b.toNat else b.toNat * 256 + a.toNat

/-- The pieces of 16-bit units: a pair of surrogates is one symbol, and a half byte pair is cut off.
-/
def pieces (bigEndian : Bool) : Bytes → List Piece
  | [] => []
  | [_] => [⟨.error .truncated, 1⟩]
  | a :: b :: rest =>
    let high := unit bigEndian a b
    match rest with
    | c :: d :: rest' =>
      let low := unit bigEndian c d
      if 0xD800 ≤ high ∧ high < 0xDC00 ∧ 0xDC00 ≤ low ∧ low < 0xE000 then
        ⟨.ok (Symbol.ofCode (0x10000 + (high - 0xD800) * 0x400 + (low - 0xDC00))), 4⟩ ::
          pieces bigEndian rest'
      else ⟨.ok (Symbol.ofCode high), 2⟩ :: pieces bigEndian (c :: d :: rest')
    | [_] => [⟨.ok (Symbol.ofCode high), 2⟩, ⟨.error .truncated, 1⟩]
    | [] => [⟨.ok (Symbol.ofCode high), 2⟩]

end Utf16

namespace Utf32

def word (bigEndian : Bool) (a b c d : UInt8) : Nat :=
  if bigEndian then ((a.toNat * 256 + b.toNat) * 256 + c.toNat) * 256 + d.toNat
  else ((d.toNat * 256 + c.toNat) * 256 + b.toNat) * 256 + a.toNat

def pieces (bigEndian : Bool) : Bytes → List Piece
  | a :: b :: c :: d :: rest =>
    let code := word bigEndian a b c d
    (if code < 0x110000 then ⟨.ok (Symbol.ofCode code), 4⟩ else ⟨.error .outOfRange, 4⟩) ::
      pieces bigEndian rest
  | [] => []
  | rest => [⟨.error .truncated, rest.length⟩]

end Utf32

inductive EncodingForm where
  | utf8
  | utf16 (bigEndian : Bool)
  | utf32 (bigEndian : Bool)
  deriving DecidableEq, Repr

namespace EncodingForm

def name : EncodingForm → String
  | .utf8 => "utf-8"
  | .utf16 bigEndian => if bigEndian then "utf-16-be" else "utf-16-le"
  | .utf32 bigEndian => if bigEndian then "utf-32-be" else "utf-32-le"

def pieces : EncodingForm → Bytes → List Piece
  | .utf8 => Utf8.pieces true
  | .utf16 bigEndian => Utf16.pieces bigEndian
  | .utf32 bigEndian => Utf32.pieces bigEndian

end EncodingForm

namespace Detection

def detectUnmarked : Bytes → EncodingForm
  | a :: b :: c :: d :: _ =>
    if a = 0 then if b = 0 then .utf32 true else .utf16 true
    else if b = 0 then if c = 0 ∧ d = 0 then .utf32 false else .utf16 false
    else .utf8
  | [a, b] => if a = 0 then .utf16 true else if b = 0 then .utf16 false else .utf8
  | _ => .utf8

def detect (bytes : Bytes) : EncodingForm × Nat :=
  if [0x00, 0x00, 0xFE, 0xFF] <+: bytes then (.utf32 true, 4)
  else if [0xFF, 0xFE, 0x00, 0x00] <+: bytes then (.utf32 false, 4)
  else if [0xFE, 0xFF] <+: bytes then (.utf16 true, 2)
  else if [0xFF, 0xFE] <+: bytes then (.utf16 false, 2)
  else if [0xEF, 0xBB, 0xBF] <+: bytes then (.utf8, 3)
  else (detectUnmarked bytes, 0)

/-- The text of bytes whose form the first bytes show, without the byte order mark. Offsets in an
error count the mark of a wide form but not that of UTF-8. -/
def decode (bytes : Bytes) : Except DecodeError Text :=
  let (form, mark) := detect bytes
  let body := bytes.drop mark
  match form with
  | .utf8 => Decoding.strict form.name body 0 (form.pieces body)
  | _ => Decoding.strict form.name bytes mark (form.pieces body)

end Detection

end CredentialHelper
