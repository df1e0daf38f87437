import CredentialHelper.Text.Symbol

/-!
# Identity and fixed values

The names under which the helper shows itself, the endpoints and scopes that it uses unless the
configuration says otherwise, and the figures of its rules.
-/

namespace CredentialHelper

namespace Identity

def version : String := "2.1.0"

def name : String := "docker-credential-gcr"

def userAgent : String := name ++ "/" ++ version

def userName : String :=
  "_dcgcr_" ++ String.ofList (version.toList.map fun c => if c = '.' then '_' else c) ++ "_token"

end Identity

namespace Default

/-- What an ambient or granted token has to allow. -/
def scopes : List Text := ["https://www.googleapis.com/auth/cloud-platform"]

def tokenUri : String := "https://oauth2.googleapis.com/token"

def authUri : String := "https://accounts.google.com/o/oauth2/auth"

def gcloudCommand : String := "gcloud"

def gcloudArguments : List Text :=
  ["config", "config-helper", "--force-auth-refresh", "--format=value(credential.access_token)"]

/-- Seconds before its expiry from which a token counts as expired. -/
def expirySkew : Nat := 10

def bearer : String := "Bearer"

def tokenSources : List Text := ["store", "gcloud", "env"]

/-- The pair of codes by which a token endpoint says that a grant is revoked. -/
def revokedError : String := "invalid_grant"

def revokedSubtype : String := "invalid_rapt"

def configFile : String := "~/.config/gcloud/docker_credential_gcr_config.json"

def credentialFile : String := "~/.config/gcloud/docker_credentials.json"

end Default

end CredentialHelper
