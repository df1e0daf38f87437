import CredentialHelper.Login
import CredentialHelper.Settings.Basic
import CredentialHelper.Source.Ambient
import CredentialHelper.Source.Gcloud
import CredentialHelper.Source.Reauthentication
import CredentialHelper.Source.Stored

/-!
# The helper

The helper gives every registry the same user name, and as its secret the token of the first source
that has one. It keeps nothing between two requests, and it neither lists nor changes credentials.
-/

namespace CredentialHelper

structure RegistryCredential where
  userName : Text
  secret : Text
  deriving DecidableEq, Repr

/-- A way to get tokens and the sources to get them from. -/
structure Helper where
  coordinator : Coordinator World
  tokenSources : List Text
  userName : Text := Identity.userName

namespace Settings

def store (s : Settings) (homes : Homes) : Except NameError CredentialStore := do
  CredentialStore.ofPath homes (← s.storePath homes)

def loginClient (s : Settings) : LoginClient :=
  ⟨s.clientId, s.clientSecret, s.authUri, s.tokenUri, Default.scopes,
    some (.whole s.loginTimeout)⟩

def gcloud (s : Settings) : Command := ⟨s.gcloudCommand, some (.whole s.commandTimeout)⟩

def adapters (s : Settings) (store : CredentialStore) : Resolver.Adapters World
  | .env => some (some <$> AmbientSource.resolve defaultDetector Default.scopes)
  | .gcloud => some (some <$> GcloudSource.resolve s.gcloud)
  | .store => some (some <$> StoreSource.resolve store s.httpTimeout)

def coordinator (s : Settings) (store : CredentialStore) : Coordinator World :=
  ⟨s.adapters store, s.loginClient.logIn, store.save⟩

end Settings

namespace Helper

def ofSettings (s : Settings) (store : CredentialStore) : Helper :=
  ⟨s.coordinator store, s.tokenSources, Identity.userName⟩

def create (s : Settings) (store : CredentialStore) : Action World Helper := do
  Action.log .debug "helper" ("Credential helper created with " ++ s.summary)
  return ofSettings s store

def noSources : Failure :=
  .plain .tokenRetrieval "could not retrieve GCR's access token: no token sources configured"
    ["Run `docker-credential-gcr config --token-source=...`"]

/-- The credential for a registry, which is the same for all. -/
def get (h : Helper) (registry : Text) : Action World RegistryCredential := do
  Action.log .debug "helper" ("Credentials requested for " ++ registry)
  match ← h.coordinator.resolve h.tokenSources with
  | some token => return ⟨h.userName, token⟩
  | none => Action.fail noSources

def unimplemented (operation : Text) : Failure :=
  .plain .unimplemented (operation ++ " is unimplemented")

def list (_ : Helper) : Action World (List (Text × Text)) := Action.fail (unimplemented "list")

def add (_ : Helper) (_ : Json) : Action World Unit := Action.fail (unimplemented "add")

def delete (_ : Helper) (_ : Text) : Action World Unit := Action.fail (unimplemented "delete")

end Helper

end CredentialHelper
