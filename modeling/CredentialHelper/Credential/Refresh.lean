import CredentialHelper.Credential.Refusal
import CredentialHelper.Credential.Stored
import CredentialHelper.Host.World
import CredentialHelper.Http.ContentCoding
import CredentialHelper.Http.Form
import CredentialHelper.Store.File

/-!
# Refreshing a stored credential

A stored access token is used while it lives. After that the refresh token is sent to the token
endpoint, and a new token is made from its answer: the token itself, its type, and a lifetime from
which the expiry follows.
-/

namespace CredentialHelper.Refresh

/-! ## The answer of the endpoint -/

def lifetimeSeconds : Json → Except IntegerError Int
  | .int n => .ok n
  | .bool b => .ok (if b then 1 else 0)
  | .float .nan => .error .notANumber
  | .float (.infinite _) => .error .infinite
  | .float x => .ok (x.truncate?.getD 0)
  | .string t => (Numeral.parse t).mapError .numeral
  | .array _ => .error (.container true)
  | .object _ => .error (.container false)
  | .null => .ok 0

/-- The instant a number of seconds after another. The days of such a duration have to fit a range
of their own. -/
def later (now : Instant) (seconds : Int) : Except RangeError Instant :=
  let days := Int.fdiv seconds 86400
  if days < -2147483648 ∨ 2147483647 < days then .error .integer
  else if 999999999 < days.natAbs then .error (.days days)
  else match now.addSeconds? seconds with
    | some t => .ok t
    | none => .error .date

def about (c : StoredCredential) : Members := [(Text.ofString "token_uri", .string c.tokenUri)]

def refused (c : StoredCredential) (message : Text) (cause : Option Cause) : Failure :=
  .helper (.root ⟨.tokenRefresh, message, [], about c⟩ cause)

/-- The expiry that an answer states; none if it states no lifetime. -/
def expiry (c : StoredCredential) (now : Instant) (answer : Members) :
    Except Failure (Option Instant) :=
  match answer.get? (Text.ofString "expires_in") with
  | none => .ok none
  | some v =>
    if !v.isPresent then .ok none
    else match lifetimeSeconds v with
      -- an infinite lifetime is out of range rather than no number
      | .error .infinite => .error (.foreign (.integer .infinite))
      | .error e =>
        .error (refused c "oauth2: server response has invalid expires_in" (some (.integer e)))
      | .ok seconds =>
        match later now seconds with
        | .ok t => .ok (some t)
        | .error e => .error (.foreign (.range e))

def granted (c : StoredCredential) (answer : Json) : Except Failure (Json × Members) :=
  let missing := refused c "oauth2: server response missing access_token" none
  match answer with
  | .object members =>
    match Members.get? (Text.ofString "access_token") members with
    | some token => .ok (token, members)
    | none => .error missing
  | _ => .error missing

def token (value : Json) (answer : Members) (expiry : Option Instant) : Except Failure Token :=
  let type := (answer.get? (Text.ofString "token_type")).getD (Json.ofString Default.bearer)
  match Token.ofMembers [(Text.ofString "value", value), (Text.ofString "token_type", type)] with
  | .ok t => .ok { t with expiry := expiry.map Instant.toMoment }
  | .error report => .error (.foreign (.invalid report))

/-! ## The request -/

def fields (c : StoredCredential) : List (String × Text) :=
  [("grant_type", "refresh_token"), ("refresh_token", c.refreshToken), ("client_id", c.clientId),
    ("client_secret", c.clientSecret)]

def endpoint (c : StoredCredential) : Except Cause Url :=
  match Url.parse c.tokenUri with
  | .ok url => url.targetError?.elim (.ok url) fun e => .error (.url e)
  | .error (.encoding e) => .error (.encoding e)
  | .error e => .error (.url e)

/-- The event of the request for a new token. The endpoint is read before the form is encoded. -/
def request (timeout : Int) (c : StoredCredential) : Except Cause (Url × Event) := do
  let url ← endpoint c
  let form ← (Form.encode (fields c)).mapError .encoding
  return (url, .request "POST" url.target.text form Form.mediaType Identity.userAgent timeout)

/-- The value of a header. Several headers whose names differ in case are one with all values. -/
def Response.header? (r : Response) (name : String) : Option String :=
  match r.headers.filter fun h => lowercase h.1 == Text.ofString name with
  | [] => none
  | headers => some (", ".intercalate (headers.map (·.2)))

def Response.location? (r : Response) : Option String :=
  if [301, 302, 303, 307, 308].contains r.status then Response.header? r "location" else none

def redirectError? (location : String) : Option Cause :=
  match Url.parse location with
  | .error e => some (.redirect e)
  | .ok u =>
    let rooted := u.path.isEmpty || u.path.toList.head? == some '/'
    if !u.scheme.isEmpty && u.host.isEmpty && !rooted then some (.url .pathWithHost)
    else none

/-- Whether a failure of a request is one that a refresh reports as its own. -/
def isReported : Cause → Bool
  | .collaborator e => e.isRequest || e.isValue
  | .encoding _ => true
  | .relative _ => true
  | .redirect _ => true
  | .coding _ => true
  | .document (.tooDeep _) => false
  | .document _ => true
  | .decoding _ => true
  | _ => false

def Response.json (r : Response) : Except Cause Json :=
  match Detection.decode r.body with
  | .error e => .error (.decoding e)
  | .ok t => (Json.parse t).mapError .document

/-- A response with its contents decoded, if nothing is wrong with it whatever its status. Contents
come first; a location without a scheme or a host is noticed only behind the response, and after
that a redirect to no location. -/
def Response.received (url : Url) (r : Response) : Except Cause Response := do
  let codings := ContentCoding.ofNames ((Response.header? r "content-encoding").getD "")
  let body ← (ContentCoding.decodeAll codings r.body).mapError .coding
  if !url.isAbsolute then throw (.relative url.target.text)
  match (Response.location? r).bind redirectError? with
  | some cause => throw cause
  | none => return { r with body }

def answer (timeout : Int) (c : StoredCredential) : Action World Json := do
  let unanswered (cause : Cause) : Failure :=
    if isReported cause then refused c "oauth2: cannot fetch token" (some cause) else .foreign cause
  match request timeout c with
  | .error cause => Action.fail (unanswered cause)
  | .ok (url, event) =>
    match ← Action.attempt (World.send event) with
    | .error (.foreign cause) => Action.fail (unanswered cause)
    | .error f => Action.fail f
    | .ok response =>
      match Response.received url response with
      | .error cause => Action.fail (unanswered cause)
      | .ok response =>
        if 200 ≤ response.status ∧ response.status < 300 then
          match Response.json response with
          | .ok v => return v
          | .error cause => Action.fail (unanswered cause)
        else
          Action.log .warning "store" ("Token refresh rejected with " ++ toString response.status)
          let cause : Cause :=
            .status ⟨response.status, url.target.text, Response.location? response, response.body⟩
          match Refusal.classify "oauth2: cannot fetch token" (.bytes response.body)
              (.foreign cause) .tokenRefresh with
          | .ok e => Action.fail (.helper e)
          | .error cause => Action.fail (.foreign cause)

/-- A current token for a credential: the one at hand while it lives, or else a new one. -/
def currentToken (timeout : Int) (c : StoredCredential) : Action World Token := do
  let now := (← get).now
  match c.token.isLive now.toMoment with
  | .error e => Action.fail (.foreign (.range e))
  | .ok true =>
    Action.log .debug "store" "Stored access token still valid"
    return c.token
  | .ok false =>
    if c.refreshToken.isEmpty then
      Action.fail (.plain .tokenRefresh "no refresh token available" StoreFile.loginFirst)
    else
      Action.log .debug "store" ("Refreshing stored credential against " ++ c.tokenUri)
      let answer ← answer timeout c
      let (value, members) ← Action.ofExcept (granted c answer)
      let expiry ← Action.ofExcept (expiry c now members)
      Action.log .info "store" "Stored credential refreshed"
      Action.ofExcept (token value members expiry)

end CredentialHelper.Refresh
