import CredentialHelper.Text.Placement

/-!
# Encoding text into bytes

No bytes stand for an unpaired surrogate, so that a text with one cannot be encoded. The error names
the first run of surrogates.
-/

namespace CredentialHelper

structure EncodeError where
  /-- The first surrogate, counted from U+D800. -/
  first : Fin 2048
  /-- The place of the first surrogate and the place behind the last one. -/
  start : Nat
  stop : Nat
  deriving DecidableEq, Repr

def EncodeError.message (e : EncodeError) : String :=
  "'utf-8' codec can't encode " ++
    Placement.ofSymbols (some (.surrogate e.first)) e.start e.stop ++
    ": surrogates not allowed"

namespace Encoding

/-- The error of a text that stands at `position`, if one of its surrogates is not allowed. The run
begins with that surrogate. -/
def refused? (allowed : Fin 2048 → Bool) (position : Nat) : Text → Option EncodeError
  | [] => none
  | .char _ :: rest => refused? allowed (position + 1) rest
  | .surrogate n :: rest =>
    if allowed n then refused? allowed (position + 1) rest
    else some ⟨n, position, position + 1 + (rest.takeWhile Symbol.isSurrogate).length⟩

def characters (t : Text) : Except EncodeError (List Char) :=
  match refused? (fun _ => false) 0 t with
  | some e => .error e
  | none => .ok (t.filterMap Symbol.char?)

def string (t : Text) : Except EncodeError String := (characters t).map String.ofList

theorem refused?_map_char (cs : List Char) (position : Nat) :
    refused? (fun _ => false) position (cs.map .char) = none := by
  induction cs generalizing position with
  | nil => rfl
  | cons c cs ih => simpa [refused?] using ih (position + 1)

end Encoding

def Text.escaped (t : Text) : String :=
  String.ofList (t.flatMap fun
    | .char c => [c]
    | .surrogate n => ['\\', 'u'] ++ hexDigits 4 (0xD800 + n.val))

end CredentialHelper
