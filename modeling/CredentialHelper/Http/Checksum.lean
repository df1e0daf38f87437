import CredentialHelper.Text.Decoding

/-!
# Checksums of bytes

Two checksums by which compressed data is known to be whole: the remainder of a division of
polynomials over bits, and a pair of sums modulo a prime. Both have 32 bits.
-/

namespace CredentialHelper.Checksum

/-- One step of the division, by the polynomial whose bits are written in reverse. -/
def shift (r : UInt32) : UInt32 := if r &&& 1 = 1 then (r >>> 1) ^^^ 0xEDB88320 else r >>> 1

def divideByte (r : UInt32) (b : UInt8) : UInt32 := Nat.repeat shift 8 (r ^^^ b.toUInt32)

/-- The remainder of the division, with all bits inverted before and after it. -/
def crc32 (bytes : Bytes) : Nat := (bytes.foldl divideByte 0xFFFFFFFF ^^^ 0xFFFFFFFF).toNat

def sums (bytes : Bytes) : Nat × Nat :=
  bytes.foldl (fun (a, b) byte => ((a + byte.toNat) % 65521, (b + a + byte.toNat) % 65521)) (1, 0)

def adler32 (bytes : Bytes) : Nat := (sums bytes).2 * 65536 + (sums bytes).1

end CredentialHelper.Checksum
