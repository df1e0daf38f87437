import CredentialHelper.Credential.Token

/-!
# Stored credentials

What a login leaves behind: an access token with its expiry, the refresh token that buys the next
one, and the client and endpoint to buy it with.
-/

namespace CredentialHelper

/-- A credential as the store keeps it. -/
structure StoredCredential where
  accessToken : Text := []
  refreshToken : Text := []
  expiry : Option Moment := none
  clientId : Text := []
  clientSecret : Text := []
  tokenUri : Text := Default.tokenUri
  deriving DecidableEq, Repr

namespace StoredCredential

open Validation

def formName : String := "PersistedCredential"

def ofMembers (members : Members) : Except Report StoredCredential :=
  let accessToken := optional "access_token" readText [] members
  let refreshToken := optional "refresh_token" readText [] members
  let expiry := optional "token_expiry" readOptionalMoment none members
  let clientId := optional "client_id" readText [] members
  let clientSecret := optional "client_secret" readText [] members
  let tokenUri := optional "token_uri" readText Default.tokenUri members
  match accessToken, refreshToken, expiry, clientId, clientSecret, tokenUri with
  | .ok accessToken, .ok refreshToken, .ok expiry, .ok clientId, .ok clientSecret, .ok tokenUri =>
    .ok ⟨accessToken, refreshToken, expiry, clientId, clientSecret, tokenUri⟩
  | _, _, _, _, _, _ =>
    .error ⟨formName, accessToken.issues ++ refreshToken.issues ++ expiry.issues ++
      clientId.issues ++ clientSecret.issues ++ tokenUri.issues⟩

def ofJson : Json → Except Report StoredCredential
  | .object members => ofMembers members
  | _ => .error ⟨formName, [⟨[], .record formName⟩]⟩

def toJson (c : StoredCredential) : Json :=
  .ofMembers [("access_token", .string c.accessToken),
    ("refresh_token", .string c.refreshToken), ("token_expiry", Token.expiryJson c.expiry),
    ("client_id", .string c.clientId), ("client_secret", .string c.clientSecret),
    ("token_uri", .string c.tokenUri)]

/-- The access token at hand, which may be empty or expired. An expiry without an offset is in UTC.
-/
def token (c : StoredCredential) : Token :=
  ⟨c.accessToken, Default.bearer, c.expiry.map fun m => ⟨m.wall, some (m.offset.getD 0)⟩⟩

end StoredCredential

end CredentialHelper
