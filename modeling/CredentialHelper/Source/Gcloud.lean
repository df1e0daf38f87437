import CredentialHelper.Source.Command

/-!
# The gcloud source

The gcloud program prints an access token. Blanks around it do not belong to it, and a token has to
be left when they are taken off.
-/

namespace CredentialHelper.GcloudSource

def tokenOf (stdout : Bytes) : Except Failure Text :=
  let token := Blank.strip (Utf8.decodeLenient stdout)
  if token.isEmpty then
    .error (.plain .emptyToken "`gcloud config config-helper` returned an empty access_token"
      ["Run `gcloud auth login`"])
  else .ok token

def wrapped : Failure → Failure
  | .helper e =>
    if e.kind = .externalTool then
      .helper (.wrap ⟨.externalTool, "`gcloud config config-helper` failed", [], []⟩ e)
    else .helper e
  | f => f

def resolve (c : Command) : Action World Text := do
  match ← Action.attempt (c.run Default.gcloudArguments) with
  | .error f => Action.fail (wrapped f)
  | .ok stdout => Action.ofExcept (tokenOf stdout)

end CredentialHelper.GcloudSource
