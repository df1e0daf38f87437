import CredentialHelper.Text.Encoding
import CredentialHelper.Text.Utf8

/-!
# Percent encoding

A character outside a safe set is written as the bytes of its UTF-8 form, each as a percent sign and
two upper-case hexadecimal digits.
-/

namespace CredentialHelper.Percent

def hexDigit (n : Nat) : Char := if n < 10 then Char.ofNat (48 + n) else Char.ofNat (55 + n)

def hexValue? (c : Char) : Option Nat :=
  if '0' ≤ c ∧ c ≤ '9' then some (c.toNat - 48)
  else if 'A' ≤ c ∧ c ≤ 'F' then some (c.toNat - 55)
  else if 'a' ≤ c ∧ c ≤ 'f' then some (c.toNat - 87)
  else none

def byte (b : UInt8) : List Char := ['%', hexDigit (b.toNat / 16), hexDigit (b.toNat % 16)]

def char (c : Char) : List Char := (String.utf8EncodeChar c).flatMap byte

def isUnreserved (c : Char) : Bool :=
  c.isAlphanum || c == '-' || c == '.' || c == '_' || c == '~'

def encode (safe : Char → Bool) (cs : List Char) : List Char :=
  cs.flatMap fun c => if isUnreserved c || safe c then [c] else char c

/-- Encodes the characters outside a safe set and keeps what is encoded already. -/
def complete (safe : Char → Bool) : List Char → List Char
  | '%' :: a :: b :: rest =>
    if (hexValue? a).isSome && (hexValue? b).isSome then '%' :: a :: b :: complete safe rest
    else encode safe ['%'] ++ complete safe (a :: b :: rest)
  | c :: rest => encode safe [c] ++ complete safe rest
  | [] => []

/-- Completes a text. Symbols are encoded one by one, so that a surrogate is refused at the place 0.
-/
def text (safe : Char → Bool) (t : Text) : Except EncodeError (List Char) :=
  match Encoding.refused? (fun _ => false) 0 t with
  | some e => .error ⟨e.first, 0, 1⟩
  | none => .ok (complete safe (t.filterMap Symbol.char?))

end CredentialHelper.Percent
