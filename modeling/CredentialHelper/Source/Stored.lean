import CredentialHelper.Credential.Refresh
import CredentialHelper.Store.Access

/-!
# The store source

The stored credential gives its token, refreshed if need be. A token without a known expiry is
taken.
-/

namespace CredentialHelper.StoreSource

/-- The token of the credential in a store; `timeout` bounds a refresh, in seconds. -/
def resolve (store : CredentialStore) (timeout : Int) : Action World Text := do
  let credential ← store.load
  let token ← Refresh.currentToken timeout credential
  match token.isLive (← get).now.toMoment with
  | .error e => Action.fail (.foreign (.range e))
  | .ok true => return token.value
  | .ok false => Action.fail (.plain .invalidToken "token was invalid")

end CredentialHelper.StoreSource
