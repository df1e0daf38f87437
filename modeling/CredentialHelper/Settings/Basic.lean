import CredentialHelper.Credential.Token
import CredentialHelper.Host.Journal
import CredentialHelper.Host.Path

/-!
# Settings

What a user can configure. Every setting has a default, the limits of time are bounded, and the log
level is one of four.
-/

namespace CredentialHelper

/-- The configuration of a run. Limits of time are in seconds. -/
structure Settings where
  /-- Identifiers of token sources, in the order in which they are tried. -/
  tokenSources : List Text := Default.tokenSources
  credentialFile : Text := Default.credentialFile
  gcloudCommand : Text := Default.gcloudCommand
  commandTimeout : Int := 60
  tokenUri : Text := Default.tokenUri
  authUri : Text := Default.authUri
  clientId : Text := []
  clientSecret : Text := []
  loginTimeout : Int := 300
  httpTimeout : Int := 30
  logLevel : LogLevel := .warning
  deriving DecidableEq, Repr

namespace Settings

open Validation

def formName : String := "GCRConfig"

def names : List String :=
  ["token_sources", "credential_store_file", "gcloud_command", "command_timeout_seconds",
    "token_uri", "auth_uri", "oauth_client_id", "oauth_client_secret", "login_timeout_seconds",
    "http_timeout_seconds", "log_level"]

/-- Only the exact names of the four levels are accepted. -/
def readLevel (v : Json) : Except Rule LogLevel :=
  match readString v with
  | .error rule => .error rule
  | .ok name =>
    match LogLevel.ofName? name with
    | some level => .ok level
    | none => .error (.pattern "^(DEBUG|INFO|WARNING|ERROR)$")

def readSources (members : Members) : Checked (List Text) :=
  match members.get? (Text.ofString "token_sources") with
  | some v => readTexts "token_sources" v
  | none => .ok Default.tokenSources

def ofMembers (members : Members) : Except Report Settings :=
  let sources := readSources members
  let file := optional "credential_store_file" readText Default.credentialFile members
  let gcloud := optional "gcloud_command" readText Default.gcloudCommand members
  let commandTimeout := optional "command_timeout_seconds" (readBounded 600) 60 members
  let tokenUri := optional "token_uri" readText Default.tokenUri members
  let authUri := optional "auth_uri" readText Default.authUri members
  let clientId := optional "oauth_client_id" readText [] members
  let clientSecret := optional "oauth_client_secret" readText [] members
  let loginTimeout := optional "login_timeout_seconds" (readBounded 3600) 300 members
  let httpTimeout := optional "http_timeout_seconds" (readBounded 300) 30 members
  let level := optional "log_level" readLevel LogLevel.warning members
  let settings : Checked Settings := do
    return ⟨← sources, ← file, ← gcloud, ← commandTimeout, ← tokenUri, ← authUri, ← clientId,
      ← clientSecret, ← loginTimeout, ← httpTimeout, ← level⟩
  settings.mapError fun _ =>
    ⟨formName, sources.issues ++ file.issues ++ gcloud.issues ++ commandTimeout.issues ++
      tokenUri.issues ++ authUri.issues ++ clientId.issues ++ clientSecret.issues ++
      loginTimeout.issues ++ httpTimeout.issues ++ level.issues⟩

def storePath (homes : Homes) (s : Settings) : Except NameError Text :=
  Path.expand homes s.credentialFile

def summary (s : Settings) : String :=
  formName ++ "(token_sources=" ++ Literal.texts s.tokenSources ++ ", log_level='" ++
    s.logLevel.name ++ "')"

end Settings

end CredentialHelper
