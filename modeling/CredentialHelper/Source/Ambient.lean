import CredentialHelper.Credential.Refusal
import CredentialHelper.Credential.Token
import CredentialHelper.Host.World

/-!
# The ambient source

The environment may hold a default credential, which the authentication library detects and
refreshes. Every failure of the library in the refresh becomes an error of this source; one that
says that the grant is revoked becomes that error.
-/

namespace CredentialHelper

class Clocked (σ : Type) where
  now : σ → Instant

instance : Clocked World where
  now w := w.now

/-- How an ambient credential is found: for scopes and a choice of self-signed tokens, an action
that gives the action that fetches a token. -/
abbrev Detector (σ : Type) : Type := List Text → Bool → Action σ (Action σ (Option Token))

namespace AmbientSource

variable {σ : Type}

def fetchFailed : Text := "unable to fetch default credentials token"

def reauthNeeded : Text := Text.ofString "Reauthentication is needed"

/-- Whether an argument is a text that begins to say that the user has to log in again. -/
def asksForLogin : Argument → Bool
  | .data (.string t) => reauthNeeded.isPrefixOf t
  | _ => false

/-- The first argument that is the body of a refusal, or null. -/
def firstBody : List Argument → Except Cause Argument
  | [] => .ok (.data .null)
  | a :: rest => do
    match ← Refusal.decode a with
    | some _ => return a
    | none => firstBody rest

def refreshFailure (e : CollaboratorError) : Failure :=
  let cause : Failure := .foreign (.collaborator e)
  if e.held.any asksForLogin then .helper (Refusal.revoked fetchFailed cause)
  else
    match firstBody e.held >>= fun body => Refusal.classify fetchFailed body cause .service with
    | .ok error => .helper error
    | .error c => .foreign c

def fetchFailure : Failure → Failure
  | .foreign (.collaborator e) =>
    if e.isRefresh then refreshFailure e
    else if e.isAuth then
      .helper (.root ⟨.service, fetchFailed, [], []⟩ (some (.collaborator e)))
    else .foreign (.collaborator e)
  | f => f

def detectionFailure : Failure → Failure
  | .foreign (.collaborator e) =>
    if e.isDetection then
      .helper (.root ⟨.invalidCredentials, "failed to detect default credentials", [], []⟩
        (some (.collaborator e)))
    else .foreign (.collaborator e)
  | f => f

/-- The text of a token that can be used now, which has to be a bearer token. -/
def accept (token : Option Token) (now : Instant) : Except Failure Text :=
  let invalid : Failure := .plain .invalidToken "token was invalid"
  match token with
  | none => .error invalid
  | some t =>
    match t.isValid now.toMoment with
    | .error e => .error (.foreign (.range e))
    | .ok false => .error invalid
    | .ok true =>
      if t.type = Default.bearer then .ok t.value
      else
        .error (.plain .unexpectedTokenType
          ("expected token type \"" ++ Default.bearer ++ "\" but got \"" ++ t.type ++ "\""))

def resolve [Clocked σ] (detector : Detector σ) (scopes : List Text) : Action σ Text := do
  match ← Action.attempt (detector scopes true) with
  | .error f => Action.fail (detectionFailure f)
  | .ok fetch =>
    match ← Action.attempt fetch with
    | .error f => Action.fail (fetchFailure f)
    | .ok token => Action.ofExcept (accept token (Clocked.now (← get)))

end AmbientSource

/-! ## The default credential of the environment -/

namespace Detected

/-- Whether the credential signs its tokens itself; none for the credential of a user. -/
def selfSigned (d : Detected) (wanted : Bool) : Option Bool :=
  if d.isServiceAccount then some wanted else none

def token (d : Detected) : Except Failure Token :=
  match d.refresh with
  | .error f => .error f
  | .ok r =>
    match r.expiry with
    | none => .ok ⟨r.token.getD [], Default.bearer, none⟩
    | some expiry =>
      match expiry.utc? with
      | some t => .ok ⟨r.token.getD [], Default.bearer, some t.toMoment⟩
      | none => .error (.foreign (.range .date))

end Detected

def defaultDetector : Detector World := fun scopes _ => do
  let d ← World.detect scopes
  return Action.ofExcept (d.token.map some)

end CredentialHelper
