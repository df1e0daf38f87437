import CredentialHelper.Text.Placement

/-!
# Decoding bytes into text

An encoding form cuts its bytes into pieces, each of them one symbol or one malformed stretch.
`Decoding.strict` stops at the first malformed stretch and reports where it lies;
`Decoding.lenient` puts U+FFFD in place of each.
-/

namespace CredentialHelper

abbrev Bytes := List UInt8

inductive Malformed where
  | invalidStart
  | invalidContinuation
  | unexpectedEnd
  | truncated
  | outOfRange
  deriving DecidableEq, Repr

def Malformed.message : Malformed → String
  | .invalidStart => "invalid start byte"
  | .invalidContinuation => "invalid continuation byte"
  | .unexpectedEnd => "unexpected end of data"
  | .truncated => "truncated data"
  | .outOfRange => "code point not in range(0x110000)"

structure Piece where
  content : Except Malformed Symbol
  size : Nat

structure DecodeError where
  encoding : String
  /-- The first byte of the stretch. -/
  byte : UInt8
  /-- The offset of the stretch and the offset behind it. -/
  start : Nat
  stop : Nat
  reason : Malformed
  deriving DecidableEq, Repr

def DecodeError.message (e : DecodeError) : String :=
  "'" ++ e.encoding ++ "' codec can't decode " ++
    Placement.ofBytes (some e.byte) e.start e.stop ++
    ": " ++ e.reason.message

namespace Decoding

/-- The text of the pieces, or the first malformed one with its offset, counted from `start`. -/
def strictFrom (start : Nat) : List Piece → Except (Nat × Nat × Malformed) Text
  | [] => .ok []
  | ⟨.ok s, size⟩ :: rest => (strictFrom (start + size) rest).map (s :: ·)
  | ⟨.error reason, size⟩ :: _ => .error (start, start + size, reason)

/-- The text of the pieces, which `bytes` holds from offset `start` on, or the first malformed
stretch. -/
def strict (encoding : String) (bytes : Bytes) (start : Nat) (pieces : List Piece) :
    Except DecodeError Text :=
  match strictFrom start pieces with
  | .ok t => .ok t
  | .error (first, stop, reason) => .error ⟨encoding, bytes[first]?.getD 0, first, stop, reason⟩

def lenient (pieces : List Piece) : Text :=
  pieces.map fun p => match p.content with
    | .ok s => s
    | .error _ => .char '\ufffd'

end Decoding

end CredentialHelper
