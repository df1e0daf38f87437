import CredentialHelper.Http.Label
import CredentialHelper.Text.Case
import CredentialHelper.Text.Split

/-!
# Host names outside ASCII

A host name is written in ASCII label by label. The labels are divided by dots, of which the scripts
of East Asia have forms of their own.
-/

namespace CredentialHelper.HostName

def isDot (c : Char) : Bool := c == '.' || c == '\u3002' || c == '\uff0e' || c == '\uff61'

/-- A host name in ASCII. A dot may follow the last label. -/
def ascii? (host : Text) : Option String :=
  let parts := splitWhere (Symbol.isIn isDot) (lowercase host)
  let body := if parts.getLast? == some [] then parts.dropLast else parts
  match body.mapM fun label => (Text.chars? label).bind Label.ascii? with
  | none => none
  | some written =>
    let name := ".".intercalate (written.map String.ofList)
    if body.isEmpty || 253 < name.length then none
    else some (if body.length < parts.length then name ++ "." else name)

end CredentialHelper.HostName
