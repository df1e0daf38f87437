import CredentialHelper.Failure.Error
import CredentialHelper.Text.Detection

/-!
# Refusals of a token endpoint

A token endpoint says why it refuses a request in a JSON object, which arrives as a decoded value,
as text or as bytes. One exact pair of codes says that the grant is revoked and the user has to log
in again; every other refusal is an error of the kind that the caller names.
-/

namespace CredentialHelper.Refusal

/-- A text that may be a document, and is one unless it has a flaw. -/
def ofText (t : Text) : Except Cause (Option Members) :=
  match Json.parse t with
  | .ok (.object members) => .ok (some members)
  | .ok _ => .ok none
  -- nesting without bound is the one failure of a document that is not about its text
  | .error (.tooDeep isArray) => .error (.document (.tooDeep isArray))
  | .error _ => .ok none

/-- The object that the body of a refusal is, or `none` if it is no object. -/
def decode : Argument → Except Cause (Option Members)
  | .data (.object members) => .ok (some members)
  | .data (.string t) => ofText t
  | .data _ => .ok none
  | .bytes bs =>
    match Detection.decode bs with
    | .ok t => ofText t
    | .error _ => .ok none

def names (members : Members) (name : String) (value : Text) : Bool :=
  match members.get? (Text.ofString name) with
  | some (.string t) => t == value
  | _ => false

def isRevoked (members : Members) : Bool :=
  names members "error" Default.revokedError && names members "error_subtype" Default.revokedSubtype

def loginAgain : List Text := ["Run `docker-credential-gcr auth login` to reauthenticate"]

def revoked (message : Text) (cause : Failure) : HelperError :=
  .because ⟨.revokedGrant Default.revokedError Default.revokedSubtype, message, loginAgain, []⟩
    cause

/-- The error for a refusal: a revoked grant, or else an error of the kind `fallback` that shows
the body. -/
def classify (message : Text) (body : Argument) (cause : Failure) (fallback : ErrorKind) :
    Except Cause HelperError := do
  let other (members : Members) : HelperError :=
    .because ⟨fallback, message, [], [(Text.ofString "response", .object members)]⟩ cause
  match ← decode body with
  | some members =>
    if isRevoked members then return revoked message cause else return other members
  | none => return other []

end CredentialHelper.Refusal
