import CredentialHelper.Text.Symbol

/-!
# Kinds of helper errors

The resolution of a token reacts to the kind of an error: a failure of one source is passed over in
favour of the next source, a configuration error ends the resolution, and a revoked grant starts a
login. Every kind has a name under which it is logged.
-/

namespace CredentialHelper

inductive ErrorKind where
  /-- Any error of the helper. -/
  | general
  /-- The user's configuration cannot be used. -/
  | config
  /-- A configured identifier names no token source. -/
  | unknownSource (source : Text)
  /-- A single token source failed. -/
  | source
  /-- No ambient credential was detected. -/
  | invalidCredentials
  /-- A token is empty or about to expire. -/
  | invalidToken
  /-- The ambient token is no bearer token. -/
  | unexpectedTokenType
  /-- An external program failed. -/
  | externalTool
  /-- An external program printed no token. -/
  | emptyToken
  /-- The stored credential cannot be read. -/
  | storeRead
  /-- The refresh token was not exchanged for an access token. -/
  | tokenRefresh
  /-- A service or a library failed. -/
  | service
  /-- The token endpoint answered that the grant is revoked. -/
  | revokedGrant (error subtype : Text)
  /-- No token source gave a token. -/
  | tokenRetrieval
  /-- The stored credential cannot be written. -/
  | storeWrite
  /-- The interactive login did not give a credential. -/
  | login
  /-- The user had to log in again and did not. -/
  | authenticationFailed
  /-- The user logged in and the credential was not saved. -/
  | persist
  /-- The operation is not offered. -/
  | unimplemented
  deriving DecidableEq, Repr

namespace ErrorKind

/-- The name of a kind and the names of the kinds that it is a case of, narrowest first. -/
def lineage : ErrorKind → List String
  | .general => ["CredentialHelperError"]
  | .config => ["ConfigError", "CredentialHelperError"]
  | .unknownSource _ => ["UnknownSourceKindError", "ConfigError", "CredentialHelperError"]
  | .source => ["TokenSourceError", "CredentialHelperError"]
  | .invalidCredentials => ["InvalidCredentialsError", "TokenSourceError", "CredentialHelperError"]
  | .invalidToken => ["InvalidTokenError", "TokenSourceError", "CredentialHelperError"]
  | .unexpectedTokenType =>
    ["UnexpectedTokenTypeError", "TokenSourceError", "CredentialHelperError"]
  | .externalTool => ["ExternalToolError", "TokenSourceError", "CredentialHelperError"]
  | .emptyToken => ["EmptyTokenError", "TokenSourceError", "CredentialHelperError"]
  | .storeRead => ["StoreReadError", "TokenSourceError", "CredentialHelperError"]
  | .tokenRefresh => ["TokenRefreshError", "TokenSourceError", "CredentialHelperError"]
  | .service => ["UpstreamError", "TokenSourceError", "CredentialHelperError"]
  | .revokedGrant _ _ =>
    ["RevokedGrantError", "UpstreamError", "TokenSourceError", "CredentialHelperError"]
  | .tokenRetrieval => ["TokenRetrievalError", "CredentialHelperError"]
  | .storeWrite => ["StoreWriteError", "CredentialHelperError"]
  | .login => ["LoginError", "CredentialHelperError"]
  | .authenticationFailed => ["AuthenticationFailedError", "CredentialHelperError"]
  | .persist => ["PersistError", "CredentialHelperError"]
  | .unimplemented => ["UnimplementedError", "CredentialHelperError"]

def name (kind : ErrorKind) : String := kind.lineage.headD ""

/-- Whether an error of this kind concerns a single token source, so that the next one is tried. -/
def isSourceFailure : ErrorKind → Bool
  | .source | .invalidCredentials | .invalidToken | .unexpectedTokenType | .externalTool
  | .emptyToken | .storeRead | .tokenRefresh | .service | .revokedGrant _ _ => true
  | _ => false

theorem isSourceFailure_iff_mem_lineage (kind : ErrorKind) :
    kind.isSourceFailure = true ↔ "TokenSourceError" ∈ kind.lineage := by
  cases kind <;> simp [isSourceFailure, lineage]

end ErrorKind

end CredentialHelper
