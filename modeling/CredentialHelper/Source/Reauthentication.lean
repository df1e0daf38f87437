import CredentialHelper.Credential.Stored
import CredentialHelper.Source.Resolver

/-!
# Logging in again

If the last source fails because the user's grant is revoked, the user logs in, the new credential
is saved, and the sources are tried once more. Whatever that gives is final.
-/

namespace CredentialHelper

structure Coordinator (σ : Type) where
  adapters : Resolver.Adapters σ
  login : Action σ StoredCredential
  save : StoredCredential → Action σ Unit

namespace Coordinator

variable {σ : Type}

def loginAnnounced : Text := "Reauth required; opening a browser to proceed...\n"

def loginDone : Text := "Reauth successful!\n"

def wrapping {α : Type} (kind : ErrorKind) (message : Text) (a : Action σ α) : Action σ α := do
  match ← Action.attempt a with
  | .ok x => return x
  | .error (.helper e) => Action.fail (.helper (.wrap ⟨kind, message, [], []⟩ e))
  | .error f => Action.fail f

def reauthenticate [Journaled σ] (c : Coordinator σ) : Action σ Unit := do
  Action.tell loginAnnounced
  let credential ← wrapping .authenticationFailed "unable to authenticate user" c.login
  wrapping .persist "unable to persist access token" (c.save credential)
  Action.tell loginDone

def unretrieved (e : HelperError) : HelperError :=
  .wrap ⟨.tokenRetrieval, "could not retrieve GCR's access token", e.suggestions, e.context⟩ e

def resolve [Journaled σ] (c : Coordinator σ) (identifiers : List Text) :
    Action σ (Option Text) := do
  match ← Action.attempt (Resolver.resolve c.adapters identifiers) with
  | .ok token => return token
  | .error (.helper e) =>
    match e.kind with
    | .revokedGrant error subtype =>
      Action.log .info "reauth" ("Revoked grant detected: " ++ error ++ "/" ++ subtype)
      reauthenticate c
      Resolver.resolve c.adapters identifiers
    | _ => Action.fail (.helper (unretrieved e))
  | .error f => Action.fail f

end Coordinator

end CredentialHelper
