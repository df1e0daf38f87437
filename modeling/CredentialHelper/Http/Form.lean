import CredentialHelper.Http.Percent
import CredentialHelper.Text.Split

/-!
# Form encoding

A form is a list of named texts. In its encoding an equals sign stands behind each name, ampersands
stand between fields, a blank is a plus sign, and every other character that is not unreserved is
percent-encoded. A text with a surrogate has no encoding. `Form.decode` reads an encoding back.
-/

namespace CredentialHelper.Form

def mediaType : String := "application/x-www-form-urlencoded"

def component (cs : List Char) : List Char :=
  cs.flatMap fun c => if c = ' ' then ['+'] else Percent.encode (fun _ => false) [c]

def field (name value : List Char) : List Char := component name ++ '=' :: component value

def joined : List (List Char × List Char) → List Char
  | [] => []
  | [(name, value)] => field name value
  | (name, value) :: rest => field name value ++ '&' :: joined rest

def encode (fields : List (String × Text)) : Except EncodeError String := do
  let fields ← fields.mapM fun (name, value) => do return (name.toList, ← Encoding.characters value)
  return String.ofList (joined fields)

def componentBytes : List Char → Bytes
  | [] => []
  | '+' :: rest => 0x20 :: componentBytes rest
  | '%' :: a :: b :: rest =>
    match Percent.hexValue? a, Percent.hexValue? b with
    | some h, some l => UInt8.ofNat (h * 16 + l) :: componentBytes rest
    | _, _ => 0x25 :: componentBytes (a :: b :: rest)
  | c :: rest => String.utf8EncodeChar c ++ componentBytes rest

def decodeComponent (cs : List Char) : Text := Utf8.decodeLenient (componentBytes cs)

def decode (s : String) : List (Text × Text) :=
  ((splitAtChar '&' s.toList).filter fun piece => !piece.isEmpty).map fun piece =>
    (decodeComponent (piece.takeWhile (· != '=')),
      decodeComponent ((piece.dropWhile (· != '=')).drop 1))

end CredentialHelper.Form
