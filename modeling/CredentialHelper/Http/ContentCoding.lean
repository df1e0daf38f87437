import CredentialHelper.Http.Checksum
import CredentialHelper.Http.Deflate
import CredentialHelper.Text.Blank
import CredentialHelper.Text.Case
import CredentialHelper.Text.Split

/-!
# Codings of contents

The contents of an answer can be compressed, in one of two ways: deflated data behind a header, with
a checksum and a length behind it, or deflated data alone or with a short header and a checksum.
Contents coded several times are decoded from the last coding to the first.
-/

namespace CredentialHelper

inductive ContentCoding where
  | gzip
  | deflate
  deriving DecidableEq, Repr

namespace ContentCoding

def ofName? (name : Text) : Option ContentCoding :=
  if name = "gzip" then some .gzip
  else if name = "deflate" then some .deflate
  else none

/-- The codings that a list of names between commas means. Other names are left out. -/
def ofNames (names : Text) : List ContentCoding :=
  (splitAtChar (.char ',') names).filterMap fun name => ofName? (lowercase (Blank.strip name))

open Inflater

def bytesOf : List Bool → Bytes
  | a :: b :: c :: d :: e :: f :: g :: h :: rest =>
    UInt8.ofNat ([a, b, c, d, e, f, g, h].foldr (fun bit n => bit.toNat + 2 * n) 0) :: bytesOf rest
  | _ => []

def skipText : Nat → Inflater Unit
  | 0 => throw .exhausted
  | n + 1 => do
    if (← number 8) = 0 then return () else skipText n

/-- The header of compressed data: its method, time and origin, and as flags say, more data, names
and a checksum of the header itself. -/
def gzipHeader : Inflater Unit := do
  let whole := (← get).bits
  if (← number 16) ≠ 0x8B1F then refuse .header
  let method ← number 8
  let flags ← number 8
  if method ≠ 8 then refuse .method
  if 32 ≤ flags then refuse .flags
  skip 48
  if flags.testBit 2 then skip (8 * (← number 16))
  if flags.testBit 3 then skipText whole.length
  if flags.testBit 4 then skipText whole.length
  if flags.testBit 1 then
    let read := whole.take (whole.length - (← get).bits.length)
    if (← number 16) ≠ Checksum.crc32 (bytesOf read) % 65536 then refuse .headerChecksum

def gzipMember : Inflater Unit := do
  gzipHeader
  inflate
  let output := (← get).output
  if (← number 32) ≠ Checksum.crc32 output.toList then refuse .checksum
  if (← number 32) ≠ output.size % 4294967296 then refuse .length

/-- Deflated data with a short header, and a checksum with its highest byte first. Data that begins
from a dictionary is refused. -/
def checkedDeflate : Inflater Unit := do
  let first ← number 8
  let second ← number 8
  if (first * 256 + second) % 31 ≠ 0 then refuse .header
  if first % 16 ≠ 8 ∨ 128 ≤ first then refuse .method
  if second.testBit 5 then
    skip 32
    refuse .header
  inflate
  let checksum := (← repeated (number 8) 4).foldl (fun n b => n * 256 + b) 0
  if checksum ≠ Checksum.adler32 (← get).output.toList then refuse .checksum

/-- Decodes contents. What follows the compressed data is left out. -/
def decode (bytes : Bytes) : ContentCoding → Except CodingError Bytes
  | .gzip => Inflater.decode gzipMember bytes
  | .deflate =>
    match Inflater.decode checkedDeflate bytes with
    | .ok decoded => .ok decoded
    | .error _ => Inflater.decode inflate bytes

def decodeAll (codings : List ContentCoding) (bytes : Bytes) : Except CodingError Bytes :=
  codings.reverse.foldlM decode bytes

end ContentCoding

end CredentialHelper
