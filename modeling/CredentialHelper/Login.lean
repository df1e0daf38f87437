import CredentialHelper.Credential.Stored
import CredentialHelper.Host.World

/-!
# Logging in

The user grants access in a browser, and what was granted becomes a stored credential. A grant has
to hold a refresh token: with an access token alone the user would have to log in again soon.
-/

namespace CredentialHelper

/-- The client for which the user grants access, and where the browser is sent. -/
structure LoginClient where
  clientId : Text
  clientSecret : Text
  authUri : Text
  tokenUri : Text
  scopes : List Text := Default.scopes
  /-- How long the user has, in seconds. -/
  timeout : Option Quantity := none
  deriving DecidableEq, Repr

namespace LoginClient

def configureFirst : List Text :=
  ["Set GCR_HELPER_OAUTH_CLIENT_ID and GCR_HELPER_OAUTH_CLIENT_SECRET"]

def revokeFirst : List Text := ["Revoke the helper's access in your Google account and retry"]

def redirectUris : List Text := ["http://localhost"]

/-- The request of a login. Nothing is shown before the browser opens, because the output of a run
belongs to the calling program. -/
def request (c : LoginClient) : LoginRequest :=
  ⟨c.clientId, c.clientSecret, c.authUri, c.tokenUri, redirectUris, c.scopes, 0, [], c.timeout⟩

/-- The error of a login that ended with a failure. An interrupt stays what it is. -/
def incomplete (f : Failure) : Failure :=
  if f.isInterrupt then f
  else .helper (.because ⟨.login, "login flow did not complete", [], []⟩ f)

/-- The credential that a grant makes for a client. Its expiry can lie out of range on the scale of
UTC. -/
def credential (c : LoginClient) (refreshToken : Text) (g : Grant) :
    Except RangeError StoredCredential :=
  let make (expiry : Option Moment) : StoredCredential :=
    ⟨g.token.getD [], refreshToken, expiry, c.clientId, c.clientSecret, c.tokenUri⟩
  match g.expiry with
  | none => .ok (make none)
  | some expiry =>
    match expiry.utc? with
    | some t => .ok (make (some t.toMoment))
    | none => .error .date

def logIn (c : LoginClient) : Action World StoredCredential := do
  if c.clientId.isEmpty || c.clientSecret.isEmpty then
    Action.fail (.plain .login "no OAuth client configured for interactive login" configureFirst)
  else
    Action.log .debug "login" "Starting local-server OAuth flow"
    match ← Action.attempt (World.askLogin c.request) with
    | .error f => Action.fail (incomplete f)
    | .ok grant =>
      let refreshToken := grant.refreshToken.getD []
      if refreshToken.isEmpty then
        Action.fail (.plain .login "login did not grant a refresh token" revokeFirst)
      else
        Action.log .info "login" "Interactive login completed"
        Action.ofExcept ((c.credential refreshToken grant).mapError fun e => .foreign (.range e))

end LoginClient

end CredentialHelper
