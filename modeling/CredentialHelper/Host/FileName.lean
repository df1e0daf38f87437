import CredentialHelper.Text.Encoding
import CredentialHelper.Text.Utf8

/-!
# File names

The system names files by bytes. As a text such a name is UTF-8, and a byte that is part of no
character is a surrogate of its own, from U+DC80 to U+DCFF. Other surrogates and the null character
can stand in no name.
-/

namespace CredentialHelper

inductive NameError where
  | encoding (e : EncodeError)
  /-- It holds a null character. -/
  | null
  deriving DecidableEq, Repr

def NameError.message : NameError → String
  | .encoding e => e.message
  | .null => "embedded null byte"

namespace FileName

/-- Whether a surrogate stands for a byte. -/
def isByte (n : Fin 2048) : Bool := decide (0x480 ≤ n.val) && decide (n.val < 0x500)

def symbolBytes : Symbol → Bytes
  | .char c => String.utf8EncodeChar c
  | .surrogate n => [UInt8.ofNat (n.val % 256)]

def encode (t : Text) : Except NameError Bytes :=
  match Encoding.refused? isByte 0 t with
  | some e => .error (.encoding e)
  | none => if t.contains '\x00' then .error .null else .ok (t.flatMap symbolBytes)

def ofByte (b : UInt8) : Symbol := .surrogate ⟨0x400 + b.toNat, by have := b.toNat_lt; omega⟩

/-- The text of bytes that are cut into pieces. -/
def shown : Bytes → List Piece → Text
  | _, [] => []
  | bytes, p :: rest =>
    (match p.content with
      | .ok s => [s]
      | .error _ => (bytes.take p.size).map ofByte) ++ shown (bytes.drop p.size) rest

def decode (bytes : Bytes) : Text := shown bytes (Utf8.pieces false bytes)

/-- How the system shows a name again: bytes that make up a character are that character. -/
def canonical (t : Text) : Text :=
  match encode t with
  | .ok bytes => decode bytes
  | .error _ => t

def size (t : Text) : Nat := (t.flatMap symbolBytes).length

end FileName

end CredentialHelper
