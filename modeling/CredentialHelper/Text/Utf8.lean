import CredentialHelper.Text.Decoding

/-!
# UTF-8

A malformed stretch is the longest beginning of a symbol that the bytes allow, so that a reader
which replaces it loses no byte that could start a symbol of its own. With `surrogates` the three
bytes of a surrogate count as a symbol, which the standard forbids.
-/

namespace CredentialHelper.Utf8

def isContinuation (b : UInt8) : Bool := decide (0x80 ≤ b) && decide (b ≤ 0xBF)

def tailBits (b : UInt8) : Nat := b.toNat % 64

private def good (code size : Nat) : Piece := ⟨.ok (Symbol.ofCode code), size⟩

private def bad (reason : Malformed) (size : Nat) : Piece := ⟨.error reason, size⟩

def secondOfThree (surrogates : Bool) (a b : UInt8) : Bool :=
  isContinuation b && !(a == 0xE0 && b < 0xA0) && (surrogates || !(a == 0xED && 0xA0 ≤ b))

def secondOfFour (a b : UInt8) : Bool :=
  isContinuation b && !(a == 0xF0 && b < 0x90) && !(a == 0xF4 && 0x90 ≤ b)

def piece (surrogates : Bool) (a : UInt8) (rest : Bytes) : Piece :=
  if a < 0x80 then good a.toNat 1
  else if a < 0xC2 then bad .invalidStart 1
  else if a < 0xE0 then
    match rest with
    | b :: _ =>
      if isContinuation b then good (a.toNat % 32 * 64 + tailBits b) 2
      else bad .invalidContinuation 1
    | [] => bad .unexpectedEnd 1
  else if a < 0xF0 then
    match rest with
    | b :: c :: _ =>
      if !secondOfThree surrogates a b then bad .invalidContinuation 1
      else if !isContinuation c then
        bad .invalidContinuation (if secondOfThree false a b then 2 else 1)
      else good ((a.toNat % 16 * 64 + tailBits b) * 64 + tailBits c) 3
    | [b] => if secondOfThree false a b then bad .unexpectedEnd 2 else bad .invalidContinuation 1
    | [] => bad .unexpectedEnd 1
  else if a < 0xF5 then
    match rest with
    | b :: c :: d :: _ =>
      if !secondOfFour a b then bad .invalidContinuation 1
      else if !isContinuation c then bad .invalidContinuation 2
      else if !isContinuation d then bad .invalidContinuation 3
      else good (((a.toNat % 8 * 64 + tailBits b) * 64 + tailBits c) * 64 + tailBits d) 4
    | [b, c] =>
      if !secondOfFour a b then bad .invalidContinuation 1
      else if !isContinuation c then bad .invalidContinuation 2
      else bad .unexpectedEnd 3
    | [b] => if secondOfFour a b then bad .unexpectedEnd 2 else bad .invalidContinuation 1
    | [] => bad .unexpectedEnd 1
  else bad .invalidStart 1

def pieces (surrogates : Bool) : Bytes → List Piece
  | [] => []
  | a :: rest =>
    let p := piece surrogates a rest
    p :: pieces surrogates (rest.drop (p.size - 1))
termination_by bytes => bytes.length
decreasing_by simp only [List.length_drop, List.length_cons]; omega

def decode (bytes : Bytes) : Except DecodeError Text :=
  Decoding.strict "utf-8" bytes 0 (pieces false bytes)

def decodeLenient (bytes : Bytes) : Text := Decoding.lenient (pieces false bytes)

def encodeChars (cs : List Char) : Bytes := cs.flatMap String.utf8EncodeChar

def encode (s : String) : Bytes := encodeChars s.toList

end CredentialHelper.Utf8
