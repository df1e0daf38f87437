import CredentialHelper.Proofs.RefusalBodies
import CredentialHelper.Proofs.UsableSecret

/-!
# What a refresh does not report

A refresh reports its failures as errors of the helper, with exceptions: `Refresh.Escapes` lists
the failures from outside that pass through it, and `Refresh.reports_unless_escapes` says that there
are no others.  Errors of the helper are left to the next source, while a failure from outside ends
the resolution, so that the exceptions decide what becomes of the store source in front of others.
-/

namespace CredentialHelper

open CredentialHelper.Action World

/-! ## Outcomes -/

/-- An outcome is a value, an error of the helper or a failure from outside, each with a property
of its own. -/
inductive Outcome {α : Type} (Value : α → Prop) (Reported : HelperError → Prop)
    (Passed : Cause → Prop) : Except Failure α → Prop
  | value {x : α} (h : Value x) : Outcome Value Reported Passed (.ok x)
  | reported {e : HelperError} (h : Reported e) : Outcome Value Reported Passed (.error (.helper e))
  | passed {c : Cause} (h : Passed c) : Outcome Value Reported Passed (.error (.foreign c))

namespace Outcome

variable {α β : Type} {P : α → Prop} {Q : β → Prop} {R R' : HelperError → Prop}
  {S S' : Cause → Prop} {r : Except Failure α}

theorem bind {f : α → Except Failure β} (h : Outcome P R S r) (hreported : ∀ e, R e → R' e)
    (hpassed : ∀ c, S c → S' c) (hvalue : ∀ x, P x → Outcome Q R' S' (f x)) :
    Outcome Q R' S' (r.bind f) := by
  cases h with
  | value h => exact hvalue _ h
  | reported h => exact .reported (hreported _ h)
  | passed h => exact .passed (hpassed _ h)

theorem of_eq_helper {e : HelperError} (h : Outcome P R S r) (hr : r = .error (.helper e)) :
    R e := by
  subst hr
  cases h
  assumption

theorem of_eq_foreign {c : Cause} (h : Outcome P R S r) (hr : r = .error (.foreign c)) : S c := by
  subst hr
  cases h
  assumption

end Outcome

namespace Refresh

/-! ## The parts of a refresh -/

theorem lifetimeSeconds_eq_infinite_iff {v : Json} :
    lifetimeSeconds v = .error .infinite ↔ ∃ negative, v = .float (.infinite negative) := by
  constructor
  · intro h
    rw [lifetimeSeconds.eq_def] at h
    split at h
    · cases h
    · cases h
    · cases h
    · exact ⟨_, rfl⟩
    · cases h
    · next t =>
      cases hparse : Numeral.parse t with
      | error e =>
        rw [hparse] at h
        cases h
      | ok n =>
        rw [hparse] at h
        cases h
    · cases h
    · cases h
    · cases h
  · rintro ⟨negative, rfl⟩
    rfl

/-- The request is made unless the endpoint is no location or a text cannot be encoded. -/
theorem cause_of_request {timeout : Int} {c : StoredCredential} {cause : Cause}
    (h : request timeout c = .error cause) :
    (∃ e, cause = .url e ∧ endpoint c = .error (.url e)) ∨ ∃ e, cause = .encoding e := by
  rw [request] at h
  cases hendpoint : endpoint c with
  | error cause' =>
    rw [hendpoint] at h
    cases h
    rw [endpoint] at hendpoint
    split at hendpoint
    · next url _ =>
      cases htarget : url.targetError? with
      | none =>
        rw [htarget] at hendpoint
        cases hendpoint
      | some e =>
        rw [htarget] at hendpoint
        cases hendpoint
        exact .inl ⟨e, rfl, rfl⟩
    · cases hendpoint
      exact .inr ⟨_, rfl⟩
    · cases hendpoint
      exact .inl ⟨_, rfl, rfl⟩
  | ok url =>
    rw [hendpoint] at h
    cases hform : Form.encode (fields c) with
    | error e =>
      simp only [hform, bind, Except.bind, Except.mapError] at h
      cases h
      exact .inr ⟨e, rfl⟩
    | ok form =>
      simp only [hform, bind, Except.bind, Except.mapError] at h
      cases h

/-- Of what can be wrong with a response, only a path without a slash in a redirect is not
reported. -/
theorem cause_of_received {url : Url} {response : Response} {cause : Cause}
    (h : Response.received url response = .error cause) (hother : isReported cause = false) :
    cause = .url .pathWithHost := by
  rw [Response.received] at h
  rcases cases_of_bind_eq_error h with hcoding | ⟨body, -, h⟩
  · rw [Except.mapError.eq_def] at hcoding
    split at hcoding <;> cases hcoding
    cases hother
  · by_cases habsolute : url.isAbsolute = true
    · simp only [habsolute, Bool.not_true, Bool.false_eq_true, if_false] at h
      split at h
      · next hlocation =>
        cases h
        obtain ⟨location, -, hredirect⟩ := Option.bind_eq_some_iff.1 hlocation
        rw [redirectError?] at hredirect
        split at hredirect
        · cases hredirect
          cases hother
        · dsimp only at hredirect
          split at hredirect
          · cases hredirect
            rfl
          · cases hredirect
      · cases h
    · simp only [habsolute, Bool.not_false, if_true] at h
      cases h
      cases hother

/-- Of what can be wrong with a document, only nesting without bound is not reported. -/
theorem cause_of_json {response : Response} {cause : Cause}
    (h : Response.json response = .error cause) (hother : isReported cause = false) :
    ∃ isArray, cause = .document (.tooDeep isArray) := by
  rw [Response.json] at h
  split at h
  · cases h
    cases hother
  · next t _ =>
    rw [Except.mapError.eq_def] at h
    split at h
    · next e _ =>
      cases h
      cases e with
      | tooDeep isArray => exact ⟨isArray, rfl⟩
      | malformed e => cases hother
      | longInteger digits => cases hother
    · cases h

/-- The same bodies are nested without bound in an answer and in a refusal. -/
theorem json_eq_tooDeep_iff {response : Response} {isArray : Bool} :
    Response.json response = .error (.document (.tooDeep isArray)) ↔
      Refusal.TooDeep (.bytes response.body) isArray := by
  rw [Response.json]
  constructor
  · intro h
    split at h
    · cases h
    · next t ht =>
      refine .bytes ht ?_
      cases hparse : Json.parse t with
      | ok v =>
        rw [hparse] at h
        cases h
      | error e =>
        rw [hparse] at h
        cases h
        rfl
  · intro h
    cases h with
    | bytes ht h =>
      rw [ht]
      dsimp only
      rw [h]
      rfl

/-! ## The answer -/

/-- The endpoint answers the request for a credential with a response in which all is well but
perhaps its status and its body. -/
def Hears (timeout : Int) (c : StoredCredential) (head : Except Failure Response)
    (received : Response) : Prop :=
  ∃ url event response, request timeout c = .ok (url, event) ∧ head = .ok response ∧
    Response.received url response = .ok received

def Answers (timeout : Int) (c : StoredCredential) (head : Except Failure Response) (v : Json) :
    Prop :=
  ∃ received, Hears timeout c head received ∧ (200 ≤ received.status ∧ received.status < 300) ∧
    Response.json received = .ok v

/-- Why there is no answer to the request for a credential, as far as it is not reported. -/
inductive Unheard (timeout : Int) (c : StoredCredential) (head : Except Failure Response) :
    Cause → Prop
  /-- The endpoint is no location. -/
  | endpoint {e : UrlError} (h : endpoint c = .error (.url e)) : Unheard timeout c head (.url e)
  /-- The request fails, but neither as a request nor about a value. -/
  | transport {sent : Url × Event} {cause : Cause} (hsent : request timeout c = .ok sent)
      (hhead : head = .error (.foreign cause)) (hother : isReported cause = false) :
      Unheard timeout c head cause
  /-- The answer redirects to a location without a host, whose path has no slash in front. -/
  | redirect {url : Url} {event : Event} {response : Response}
      (hsent : request timeout c = .ok (url, event)) (hhead : head = .ok response)
      (h : Response.received url response = .error (.url .pathWithHost)) :
      Unheard timeout c head (.url .pathWithHost)
  /-- The body of the answer, whatever its status, is nested without bound. -/
  | nested {received : Response} {isArray : Bool} (hheard : Hears timeout c head received)
      (h : Response.json received = .error (.document (.tooDeep isArray))) :
      Unheard timeout c head (.document (.tooDeep isArray))

def IsKind (kind : ErrorKind) : Prop :=
  kind = .tokenRefresh ∨ kind = .revokedGrant Default.revokedError Default.revokedSubtype

/-- An error of a refresh, unless the network reported one of the helper as its own. -/
def Reported (head : Except Failure Response) (e : HelperError) : Prop :=
  head = .error (.helper e) ∨ IsKind e.kind

/-- What becomes of the cause for which there is no answer: it is reported, or it passes through. -/
def unanswered (c : StoredCredential) (cause : Cause) : Failure :=
  if isReported cause then refused c "oauth2: cannot fetch token" (some cause) else .foreign cause

theorem outcome_unanswered {α : Type} {Value : α → Prop} {head : Except Failure Response}
    {Passed : Cause → Prop} (c : StoredCredential) {cause : Cause}
    (h : isReported cause = false → Passed cause) :
    Outcome Value (Reported head) Passed (.error (unanswered c cause)) := by
  rw [unanswered]
  by_cases hreported : isReported cause = true
  · rw [if_pos hreported]
    exact .reported (.inr (.inl rfl))
  · rw [if_neg hreported]
    exact .passed (h (Bool.eq_false_iff.2 hreported))

/-- A refusal is an error of a refresh unless its body is nested without bound. -/
theorem outcome_classify (message : Text) (received : Response) (cause : Failure) :
    match Refusal.classify message (.bytes received.body) cause .tokenRefresh with
    | .ok e => IsKind e.kind
    | .error cause => ∃ isArray, cause = .document (.tooDeep isArray) ∧
        Response.json received = .error (.document (.tooDeep isArray)) := by
  have h := Refusal.classified message (.bytes received.body) cause .tokenRefresh
  generalize Refusal.classify _ _ _ _ = r at h ⊢
  cases h with
  | revoked h hpair => exact .inr (Refusal.kind_because _ _)
  | refused h hpair => exact .inl (Refusal.kind_because _ _)
  | unreadable h => exact .inl (Refusal.kind_because _ _)
  | tooDeep h => exact ⟨_, rfl, json_eq_tooDeep_iff.2 h⟩

section

variable {timeout : Int} {c : StoredCredential} {w : World} {received : Response} {v : Json}
  {cause : Cause}

theorem answer_of_hears (h : Hears timeout c w.http.head received) :
    ∃ cause, ((answer timeout c).runOn w).1 =
      if 200 ≤ received.status ∧ received.status < 300 then
        (Response.json received).mapError (unanswered c)
      else match Refusal.classify "oauth2: cannot fetch token" (.bytes received.body)
          (.foreign cause) .tokenRefresh with
        | .ok e => .error (.helper e)
        | .error cause => .error (.foreign cause) := by
  obtain ⟨url, event, response, hsent, hhead, hreceived⟩ := h
  refine ⟨.status ⟨received.status, url.target.text, Response.location? received, received.body⟩,
    ?_⟩
  rw [answer]
  simp only [hsent, runOn_bind, runOn_attempt, send, runOn_ofFunction, hhead, hreceived]
  by_cases hstatus : 200 ≤ received.status ∧ received.status < 300
  · rw [if_pos hstatus, if_pos hstatus]
    cases Response.json received with
    | error cause => rfl
    | ok v => rfl
  · rw [if_neg hstatus, if_neg hstatus, runOn_bind, runOn_log]
    dsimp only
    generalize Refusal.classify _ _ _ _ = r
    cases r with
    | ok e => rfl
    | error cause => rfl

theorem answer_of_not_hears (h : ∀ received, ¬ Hears timeout c w.http.head received) :
    Outcome (Answers timeout c w.http.head) (Reported w.http.head) (Unheard timeout c w.http.head)
      ((answer timeout c).runOn w).1 := by
  rw [answer]
  cases hrequest : request timeout c with
  | error cause =>
    refine outcome_unanswered c fun hother => ?_
    rcases cause_of_request hrequest with ⟨e, rfl, hendpoint⟩ | ⟨e, rfl⟩
    · exact .endpoint hendpoint
    · cases hother
  | ok sent =>
    obtain ⟨url, event⟩ := sent
    simp only [runOn_bind, runOn_attempt, send, runOn_ofFunction]
    rcases hhead : w.http.head with (e | cause) | response
    · exact .reported (.inl rfl)
    · exact outcome_unanswered c (.transport hrequest rfl)
    · cases hreceived : Response.received url response with
      | error cause =>
        simp only [hreceived]
        refine outcome_unanswered c fun hother => ?_
        cases cause_of_received hreceived hother
        exact .redirect hrequest rfl hreceived
      | ok received => exact absurd ⟨url, event, response, hrequest, hhead, hreceived⟩ (h received)

/-- There is an answer, an error of a refresh, or a failure that passes through. -/
theorem outcome_answer (timeout : Int) (c : StoredCredential) (w : World) :
    Outcome (Answers timeout c w.http.head) (Reported w.http.head) (Unheard timeout c w.http.head)
      ((answer timeout c).runOn w).1 := by
  by_cases hhears : ∃ received, Hears timeout c w.http.head received
  · obtain ⟨received, hheard⟩ := hhears
    obtain ⟨cause, hanswer⟩ := answer_of_hears hheard
    rw [hanswer]
    by_cases hstatus : 200 ≤ received.status ∧ received.status < 300
    · rw [if_pos hstatus]
      cases hjson : Response.json received with
      | ok v => exact .value ⟨received, hheard, hstatus, hjson⟩
      | error cause' =>
        refine outcome_unanswered c fun hother => ?_
        obtain ⟨isArray, rfl⟩ := cause_of_json hjson hother
        exact .nested hheard hjson
    · rw [if_neg hstatus]
      have hclassify := outcome_classify "oauth2: cannot fetch token" received (.foreign cause)
      split
      · next h =>
        rw [h] at hclassify
        exact .reported (.inr hclassify)
      · next h =>
        rw [h] at hclassify
        obtain ⟨isArray, rfl, hjson⟩ := hclassify
        exact .passed (.nested hheard hjson)
  · exact answer_of_not_hears fun received h => hhears ⟨received, h⟩

theorem answer_of_answers (h : Answers timeout c w.http.head v) :
    ((answer timeout c).runOn w).1 = .ok v := by
  obtain ⟨received, hheard, hstatus, hjson⟩ := h
  obtain ⟨cause, hanswer⟩ := answer_of_hears hheard
  rw [hanswer, if_pos hstatus, hjson]
  rfl

theorem answer_eq_ok_iff :
    ((answer timeout c).runOn w).1 = .ok v ↔ Answers timeout c w.http.head v := by
  refine ⟨fun h => ?_, answer_of_answers⟩
  have houtcome := outcome_answer timeout c w
  rw [h] at houtcome
  cases houtcome
  assumption

theorem answer_of_unheard (h : Unheard timeout c w.http.head cause) :
    ((answer timeout c).runOn w).1 = .error (.foreign cause) := by
  cases h with
  | endpoint h =>
    rw [answer, request, h]
    rfl
  | transport hsent hhead hother =>
    rw [answer, hsent]
    simp only [runOn_bind, runOn_attempt, send, runOn_ofFunction, hhead, hother]
    rfl
  | redirect hsent hhead h =>
    rw [answer, hsent]
    simp only [runOn_bind, runOn_attempt, send, runOn_ofFunction, hhead, h]
    rfl
  | @nested received isArray hheard h =>
    obtain ⟨cause, hanswer⟩ := answer_of_hears hheard
    rw [hanswer]
    by_cases hstatus : 200 ≤ received.status ∧ received.status < 300
    · rw [if_pos hstatus, h]
      rfl
    · have hclassify : Refusal.classify "oauth2: cannot fetch token" (.bytes received.body)
          (.foreign cause) .tokenRefresh = .error (.document (.tooDeep isArray)) := by
        rw [Refusal.classify_eq_map,
          Refusal.decode_eq_error_iff.2 ⟨isArray, rfl, json_eq_tooDeep_iff.1 h⟩]
        rfl
      rw [if_neg hstatus, hclassify]

end

/-! ## The token in the answer -/

section

variable {now : Instant} {members : Members}

theorem outcome_granted (c : StoredCredential) (v : Json) :
    Outcome (fun p => v = .object p.2 ∧ p.2.get? (Text.ofString "access_token") = some p.1)
      (fun e => IsKind e.kind) (fun _ => False) (granted c v) := by
  rw [granted.eq_def]
  split
  · split
    · next hvalue => exact .value ⟨rfl, hvalue⟩
    · exact .reported (.inl rfl)
  · exact .reported (.inl rfl)

/-- The lifetime in an answer is an infinite number, or it leads out of time. -/
inductive Endless (now : Instant) (members : Members) : Cause → Prop
  | infinite {negative : Bool}
      (h : members.get? (Text.ofString "expires_in") = some (.float (.infinite negative))) :
      Endless now members (.integer .infinite)
  | late {v : Json} {seconds : Int} {e : RangeError}
      (h : members.get? (Text.ofString "expires_in") = some v) (hpresent : v.isPresent = true)
      (hseconds : lifetimeSeconds v = .ok seconds) (hlate : later now seconds = .error e) :
      Endless now members (.range e)

theorem outcome_expiry (c : StoredCredential) (now : Instant) (members : Members) :
    Outcome (fun e => expiry c now members = .ok e) (fun e => IsKind e.kind) (Endless now members)
      (expiry c now members) := by
  rw [expiry]
  split
  · exact .value rfl
  · next v hv =>
    split
    · exact .value rfl
    · next hpresent =>
      rw [Bool.not_eq_true, Bool.not_eq_false'] at hpresent
      split
      · next hseconds =>
        obtain ⟨negative, rfl⟩ := lifetimeSeconds_eq_infinite_iff.1 hseconds
        exact .passed (.infinite hv)
      · exact .reported (.inl rfl)
      · next seconds hseconds =>
        split
        · exact .value rfl
        · next hlate => exact .passed (.late hv hpresent hseconds hlate)

theorem expiry_of_endless {c : StoredCredential} {cause : Cause} (h : Endless now members cause) :
    expiry c now members = .error (.foreign cause) := by
  cases h with
  | infinite h =>
    rw [expiry, h]
    rfl
  | late h hpresent hseconds hlate =>
    rw [expiry, h]
    simp only [hpresent, Bool.not_true, Bool.false_eq_true, if_false, hseconds, hlate]

def textIssues (name : String) : Json → List Validation.Issue
  | .string _ => []
  | _ => [⟨[name], .string⟩]

/-- What is wrong with the token of an answer: its value and its type have to be texts. -/
def tokenIssues (value : Json) (members : Members) : List Validation.Issue :=
  textIssues "value" value ++ textIssues "token_type"
    ((members.get? (Text.ofString "token_type")).getD (Json.ofString Default.bearer))

theorem field_readText (name : String) (v : Json) :
    (∃ t, v = .string t ∧ Validation.field name Validation.readText v = .ok t ∧
      textIssues name v = []) ∨
    (Validation.field name Validation.readText v = .error (textIssues name v) ∧
      textIssues name v ≠ []) := by
  cases v with
  | string t => exact .inl ⟨t, rfl, rfl, rfl⟩
  | _ => exact .inr ⟨rfl, List.cons_ne_nil _ _⟩

theorem token_eq (value : Json) (members : Members) (expiry : Option Instant) :
    (tokenIssues value members = [] ∧ ∃ t, token value members expiry = .ok t) ∨
    (tokenIssues value members ≠ [] ∧ token value members expiry =
      .error (.foreign (.invalid ⟨Token.formName, tokenIssues value members⟩))) := by
  generalize htype : (members.get? (Text.ofString "token_type")).getD
    (Json.ofString Default.bearer) = type
  rw [token, tokenIssues, htype]
  rcases field_readText "value" value with ⟨t, -, hvalue, hnone⟩ | ⟨hvalue, hsome⟩
  · rcases field_readText "token_type" type with ⟨u, -, hread, hnone'⟩ | ⟨hread, hsome'⟩
    · refine .inl ⟨by rw [hnone, hnone']; rfl, ⟨t, u, expiry.map Instant.toMoment⟩, ?_⟩
      simp [Token.ofMembers, Validation.required, Validation.optional, Members.get?,
        Text.ofString_eq_iff, hvalue, hread]
    · refine .inr ⟨by simp [hsome'], ?_⟩
      simp [Token.ofMembers, Validation.required, Validation.optional, Members.get?,
        Text.ofString_eq_iff, hvalue, hread, hnone, Validation.Checked.issues]
  · refine .inr ⟨by simp [hsome], ?_⟩
    rcases field_readText "token_type" type with ⟨u, -, hread, hnone'⟩ | ⟨hread, hsome'⟩
    · simp [Token.ofMembers, Validation.required, Validation.optional, Members.get?,
        Text.ofString_eq_iff, hvalue, hread, hnone', Validation.Checked.issues]
    · simp [Token.ofMembers, Validation.required, Validation.optional, Members.get?,
        Text.ofString_eq_iff, hvalue, hread, Validation.Checked.issues]

end

end Refresh

/-! ## At the edge of time -/

/-- The token has an expiry that denotes no instant, or ten seconds from now there is none. -/
def Token.OutOfTime (t : Token) (now : Instant) : Prop :=
  t.value ≠ [] ∧ ∃ m, t.expiry = some m ∧
    (m.utc? = none ∨ now.addSeconds? Default.expirySkew = none)

theorem Token.outlasts_eq_error_iff {m : Moment} {now : Instant} {e : RangeError} :
    outlasts m now.toMoment = .error e ↔
      e = .date ∧ (m.utc? = none ∨ now.addSeconds? Default.expirySkew = none) := by
  have hskew : ((Default.expirySkew : Nat) : Int) = 10 := rfl
  rw [outlasts_eq_error_iff_not_comparable, comparable_iff, m.utc?_eq, Instant.addSeconds?, hskew,
    wallTime?_eq_none_iff, wallTime?_eq_none_iff, Instant.micros_toMoment]
  simp only [now.inYears, true_and, not_and_or]

theorem Token.isLive_eq_error_iff {t : Token} {now : Instant} {e : RangeError} :
    t.isLive now.toMoment = .error e ↔ e = .date ∧ t.OutOfTime now := by
  rw [isLive_eq_error_iff_isValid, OutOfTime]
  by_cases hvalue : t.value = []
  · simp [isValid_of_empty hvalue, hvalue]
  · cases hexpiry : t.expiry with
    | none => simp [isValid_of_no_expiry hexpiry]
    | some m =>
      rw [isValid_of_expiry hvalue hexpiry, outlasts_eq_error_iff]
      simp [hvalue]

namespace Refresh

/-! ## A refresh as a whole -/

/-- The token of a credential is not usable any more, and there is a refresh token. -/
def Due (c : StoredCredential) (now : Instant) : Prop :=
  c.token.isLive now.toMoment = .ok false ∧ c.refreshToken ≠ []

/-- The endpoint answers with an object in which there is a token. -/
def Grants (timeout : Int) (c : StoredCredential) (head : Except Failure Response) (value : Json)
    (members : Members) : Prop :=
  Answers timeout c head (.object members) ∧
    members.get? (Text.ofString "access_token") = some value

/-- The failures from outside that pass through a refresh. -/
inductive Escapes (timeout : Int) (c : StoredCredential) (now : Instant)
    (head : Except Failure Response) : Cause → Prop
  /-- It cannot be said whether the token at hand is usable. -/
  | clock (h : c.token.OutOfTime now) : Escapes timeout c now head (.range .date)
  | unheard {cause : Cause} (hdue : Due c now) (h : Unheard timeout c head cause) :
      Escapes timeout c now head cause
  | endless {value : Json} {members : Members} {cause : Cause} (hdue : Due c now)
      (hgrants : Grants timeout c head value members) (h : Endless now members cause) :
      Escapes timeout c now head cause
  /-- The token or its type is no text. -/
  | form {value : Json} {members : Members} {e : Option Instant} (hdue : Due c now)
      (hgrants : Grants timeout c head value members) (hexpiry : expiry c now members = .ok e)
      (h : tokenIssues value members ≠ []) :
      Escapes timeout c now head (.invalid ⟨Token.formName, tokenIssues value members⟩)

section

variable {timeout : Int} {c : StoredCredential} {w : World}

def refreshingLine (c : StoredCredential) : Line :=
  .log ⟨.debug, "store", "Refreshing stored credential against " ++ c.tokenUri⟩

theorem currentToken_of_due (h : Due c w.now) :
    ((currentToken timeout c).runOn w).1 =
      ((answer timeout c).runOn (Journaled.note (refreshingLine c) w)).1.bind fun v =>
        (granted c v).bind fun p => (expiry c w.now p.2).bind fun e => token p.1 p.2 e := by
  rw [currentToken, runOn_bind, runOn_get]
  dsimp only
  rw [h.1]
  dsimp only
  rw [if_neg fun hnil => h.2 (List.isEmpty_iff.1 hnil), runOn_bind, runOn_log]
  dsimp only
  rw [refreshingLine, runOn_bind]
  rcases (answer timeout c).runOn _ with ⟨f | v, t⟩
  · rfl
  · dsimp only [Except.bind]
    rw [runOn_bind, runOn_ofExcept]
    rcases granted c v with f | p
    · rfl
    · dsimp only
      rw [runOn_bind, runOn_ofExcept]
      rcases expiry c w.now p.2 with f | e
      · rfl
      · rfl

theorem currentToken_of_grants {value : Json} {members : Members} (hdue : Due c w.now)
    (h : Grants timeout c w.http.head value members) :
    ((currentToken timeout c).runOn w).1 =
      (expiry c w.now members).bind fun e => token value members e := by
  have hanswer : ((answer timeout c).runOn (Journaled.note (refreshingLine c) w)).1 =
      .ok (.object members) := answer_of_answers (w := Journaled.note (refreshingLine c) w) h.1
  rw [currentToken_of_due hdue, hanswer]
  simp only [Except.bind, granted, h.2]

/-- There is a token, an error of a refresh, or a failure that passes through. -/
theorem outcome_currentToken (timeout : Int) (c : StoredCredential) (w : World) :
    Outcome (fun _ => True) (Reported w.http.head) (Escapes timeout c w.now w.http.head)
      ((currentToken timeout c).runOn w).1 := by
  by_cases hdue : Due c w.now
  · rw [currentToken_of_due hdue]
    refine (outcome_answer timeout c (Journaled.note (refreshingLine c) w)).bind (fun _ => id)
      (fun _ => .unheard hdue) fun v hv => ?_
    refine (outcome_granted c v).bind (fun _ => .inr) (fun _ => False.elim) ?_
    rintro ⟨value, members⟩ ⟨rfl, hvalue⟩
    refine (outcome_expiry c w.now members).bind (fun _ => .inr)
      (fun _ => .endless hdue ⟨hv, hvalue⟩) fun e hexpiry => ?_
    rcases token_eq value members e with ⟨-, t, htoken⟩ | ⟨hissues, htoken⟩
    · rw [htoken]
      exact .value trivial
    · rw [htoken]
      exact .passed (.form hdue ⟨hv, hvalue⟩ hexpiry hissues)
  · rw [currentToken, runOn_bind, runOn_get]
    dsimp only
    cases hlive : c.token.isLive w.now.toMoment with
    | error e =>
      obtain ⟨rfl, hout⟩ := Token.isLive_eq_error_iff.1 hlive
      exact .passed (.clock hout)
    | ok live =>
      cases live with
      | true => exact .value trivial
      | false =>
        have hrefresh : c.refreshToken.isEmpty = true := by
          by_contra hne
          exact hdue ⟨hlive, fun hnil => hne (List.isEmpty_iff.2 hnil)⟩
        simp only [hrefresh, if_true]
        exact .reported (.inr (.inl rfl))

theorem currentToken_of_escapes {cause : Cause} (h : Escapes timeout c w.now w.http.head cause) :
    ((currentToken timeout c).runOn w).1 = .error (.foreign cause) := by
  cases h with
  | clock h =>
    rw [currentToken, runOn_bind, runOn_get]
    dsimp only
    rw [Token.isLive_eq_error_iff.2 ⟨rfl, h⟩]
    rfl
  | unheard hdue h =>
    rw [currentToken_of_due hdue, answer_of_unheard (w := Journaled.note (refreshingLine c) w) h]
    rfl
  | endless hdue hgrants h =>
    rw [currentToken_of_grants hdue hgrants, expiry_of_endless h]
    rfl
  | form hdue hgrants hexpiry h =>
    rw [currentToken_of_grants hdue hgrants, hexpiry]
    rcases token_eq _ _ _ with ⟨hnone, -⟩ | ⟨-, htoken⟩
    · exact absurd hnone h
    · exact htoken

end

end Refresh

/-! ## The store source among others -/

namespace StoreSource

/-- The failures from outside that pass through the store source behind a credential that could be
loaded. -/
inductive Escapes (store : CredentialStore) (timeout : Int) (c : StoredCredential) (w : World) :
    Cause → Prop
  | refresh {cause : Cause} (h : Refresh.Escapes timeout c w.now w.http.head cause) :
      Escapes store timeout c w cause
  /-- It cannot be said whether the new token is usable. -/
  | token {t : Token}
      (h : ((Refresh.currentToken timeout c).runOn (store.load.runOn w).2).1 = .ok t)
      (hout : t.OutOfTime w.now) : Escapes store timeout c w (.range .date)

variable {store : CredentialStore} {timeout : Int} {c : StoredCredential} {w : World}

def verdict (secret : Text) : Except RangeError Bool → Except Failure Text
  | .error e => .error (.foreign (.range e))
  | .ok true => .ok secret
  | .ok false => .error (.plain .invalidToken "token was invalid")

theorem verdict_eq_ok_iff {secret : Text} {r : Except RangeError Bool} :
    verdict secret r = .ok secret ↔ r = .ok true := by
  rcases r with e | _ | _ <;> simp [verdict]

theorem resolve_of_load (timeout : Int) (hload : (store.load.runOn w).1 = .ok c) :
    ((resolve store timeout).runOn w).1 =
      ((Refresh.currentToken timeout c).runOn (store.load.runOn w).2).1.bind fun t =>
        verdict t.value (t.isLive w.now.toMoment) := by
  have hnow := (Refresh.within_currentToken timeout c (store.load.runOn w).2).now
  have hkept := (store.within_load w).now
  rw [resolve, runOn_bind]
  rcases hrun : store.load.runOn w with ⟨r, u⟩
  rw [hrun] at hload hnow hkept
  dsimp only at hload hnow hkept ⊢
  rw [hload]
  dsimp only
  rw [runOn_bind]
  rcases hcurrent : (Refresh.currentToken timeout c).runOn u with ⟨f | t, v⟩
  · rfl
  · rw [hcurrent, hkept] at hnow
    dsimp only [Except.bind] at hnow ⊢
    rw [runOn_bind, runOn_get]
    dsimp only
    rw [hnow]
    cases t.isLive w.now.toMoment with
    | error e => rfl
    | ok live => cases live <;> rfl

theorem http_of_load (store : CredentialStore) (w : World) :
    (store.load.runOn w).2.http = w.http := by
  rw [CredentialStore.runOn_load]
  rfl

/-- The store source fails for itself, unless a failure from outside passes through it. -/
theorem outcome_resolve (timeout : Int) (hload : (store.load.runOn w).1 = .ok c) :
    Outcome (fun _ => True)
      (fun e => w.http.head = .error (.helper e) ∨ e.kind.isSourceFailure = true)
      (Escapes store timeout c w) ((resolve store timeout).runOn w).1 := by
  have hnow := (store.within_load w).now
  have hcurrent := Refresh.outcome_currentToken timeout c (store.load.runOn w).2
  rw [hnow, http_of_load] at hcurrent
  rw [resolve_of_load timeout hload]
  cases h : ((Refresh.currentToken timeout c).runOn (store.load.runOn w).2).1 with
  | ok t =>
    dsimp only [Except.bind]
    cases hlive : t.isLive w.now.toMoment with
    | error e =>
      obtain ⟨rfl, hout⟩ := Token.isLive_eq_error_iff.1 hlive
      exact .passed (.token h hout)
    | ok live =>
      cases live with
      | true => exact .value trivial
      | false => exact .reported (.inr rfl)
  | error f =>
    rw [h] at hcurrent
    cases hcurrent with
    | reported he =>
      refine .reported (he.imp_right fun hkind => ?_)
      rcases hkind with hkind | hkind
      · rw [hkind]
        rfl
      · rw [hkind]
        rfl
    | passed hcause => exact .passed (.refresh hcause)

end StoreSource

/-- A refresh fails with an error of its own, or one of the listed failures passes through it.  In
front of other sources the store source accordingly ends the resolution with its token, passes it
on, or ends it with such a failure. -/
theorem Refresh.reports_unless_escapes {timeout : Int} {c : StoredCredential} {w : World}
    (hforeign : ∀ e, w.http.head ≠ .error (.helper e)) :
    (∀ e, ((currentToken timeout c).runOn w).1 = .error (.helper e) → IsKind e.kind) ∧
    (∀ cause, ((currentToken timeout c).runOn w).1 = .error (.foreign cause) ↔
      Escapes timeout c w.now w.http.head cause) ∧
    ∀ (store : CredentialStore) (adapters : Resolver.Adapters World) (identifier : Text),
      (store.load.runOn w).1 = .ok c → SourceKind.parse identifier = .ok .store →
      adapters .store = some (some <$> StoreSource.resolve store timeout) →
      (∃ token t, Resolver.position adapters identifier w =
        .stops (.ok (some token)) t (some .store)) ∨
      (∃ e t, Resolver.position adapters identifier w = .passes e t .store) ∨
      ∃ cause t, Resolver.position adapters identifier w =
        .stops (.error (.foreign cause)) t (some .store) ∧
        StoreSource.Escapes store timeout c
          (Journaled.note (Resolver.triedLine identifier) w) cause := by
  have hcurrent := outcome_currentToken timeout c w
  refine ⟨fun e h => (hcurrent.of_eq_helper h).resolve_left (hforeign e),
    fun cause => ⟨hcurrent.of_eq_foreign, currentToken_of_escapes⟩, ?_⟩
  intro store adapters identifier hload hparse hadapter
  rw [Resolver.position_of_adapter hparse hadapter, runOn_map]
  have hload' :
      (store.load.runOn (Journaled.note (Resolver.triedLine identifier) w)).1 = .ok c := by
    rw [CredentialStore.runOn_load] at hload ⊢
    exact hload
  have hresolve := StoreSource.outcome_resolve timeout hload'
  rcases hrun : (StoreSource.resolve store timeout).runOn
    (Journaled.note (Resolver.triedLine identifier) w) with ⟨r, t⟩
  rw [hrun] at hresolve
  cases hresolve with
  | value => exact .inl ⟨_, _, rfl⟩
  | reported he =>
    have hsource := he.resolve_left (hforeign _)
    exact .inr (.inl ⟨_, _, Resolver.Position.ofCall_eq_passes_iff.2 ⟨rfl, hsource, rfl, rfl⟩⟩)
  | passed hcause => exact .inr (.inr ⟨_, _, rfl, hcause⟩)

namespace Refresh

def lapsed : StoredCredential := { refreshToken := "1//r" }

def isLapsed : Except Failure StoredCredential → Bool
  | .ok c => c == lapsed
  | _ => false

theorem eq_ok_of_isLapsed {r : Except Failure StoredCredential} (h : isLapsed r = true) :
    r = .ok lapsed := by
  rw [isLapsed.eq_def] at h
  split at h
  · rw [eq_of_beq h]
  · cases h

/-- A world in which this credential is stored and the token endpoint gives one answer. -/
def answeredWorld (status : Nat) (body : String) : World :=
  { CredentialStore.fileWorld 0o600
      (Utf8.encode "\x7b\"gcrOAuth2Token\": \x7b\"refresh_token\": \"1//r\"\x7d\x7d") with
    http := ⟨[.ok ⟨status, [], Utf8.encode body⟩], .error (.foreign .noHome)⟩ }

theorem foreign_answeredWorld (status : Nat) (body : String) :
    ∀ e, (answeredWorld status body).http.head ≠ .error (.helper e) := by
  intro e h
  cases h

theorem load_answeredWorld (status : Nat) (body : String) :
    ((CredentialStore.load ⟨"creds.json"⟩).runOn (answeredWorld status body)).1 = .ok lapsed := by
  have hload : isLapsed ((CredentialStore.load ⟨"creds.json"⟩).runOn
      (answeredWorld 200 "")).1 = true := by decide +kernel
  rw [CredentialStore.runOn_load] at hload ⊢
  exact eq_ok_of_isLapsed hload

def refusingWorld : World := answeredWorld 400 "\x7b\"error\": \"invalid_grant\"\x7d"

/-- A world whose endpoint grants a token that is no text. -/
def untypedWorld : World := answeredWorld 200 "\x7b\"access_token\": null\x7d"

/-- How a position ends that calls a source: with the next one, with a failure from outside, or
otherwise. -/
def ending : Resolver.Position World → Option Bool
  | .passes _ _ _ => some true
  | .stops (.error (.foreign _)) _ _ => some false
  | _ => none

/-- A grant that is refused is left to the next source, and a token that is no text ends the
resolution. -/
theorem reports_unless_escapes_answeredWorld :
    (∃ e, ((currentToken 30 lapsed).runOn refusingWorld).1 = .error (.helper e) ∧
      IsKind e.kind) ∧
    (∃ e t, Resolver.position (Settings.adapters {} ⟨"creds.json"⟩) "store" refusingWorld =
      .passes e t .store) ∧
    ∃ cause t, Resolver.position (Settings.adapters {} ⟨"creds.json"⟩) "store" untypedWorld =
        .stops (.error (.foreign cause)) t (some .store) ∧
      StoreSource.Escapes ⟨"creds.json"⟩ 30 lapsed
        (Journaled.note (Resolver.triedLine "store") untypedWorld) cause := by
  have hrefused : hasKind .tokenRefresh ((currentToken 30 lapsed).runOn refusingWorld).1 =
      true := by decide +kernel
  have hpassed : ending (Resolver.position (Settings.adapters {} ⟨"creds.json"⟩) "store"
      refusingWorld) = some true := by decide +kernel
  have hstopped : ending (Resolver.position (Settings.adapters {} ⟨"creds.json"⟩) "store"
      untypedWorld) = some false := by decide +kernel
  obtain ⟨e, he, -⟩ := exists_of_hasKind hrefused
  obtain ⟨hkinds, -, hposition⟩ :=
    @reports_unless_escapes 30 lapsed refusingWorld (foreign_answeredWorld _ _)
  obtain ⟨-, -, hposition'⟩ :=
    @reports_unless_escapes 30 lapsed untypedWorld (foreign_answeredWorld _ _)
  refine ⟨⟨e, he, hkinds e he⟩, ?_, ?_⟩
  · rcases hposition ⟨"creds.json"⟩ (Settings.adapters {} ⟨"creds.json"⟩) "store"
      (load_answeredWorld _ _) rfl rfl with ⟨token, t, h⟩ | h | ⟨cause, t, h, -⟩
    · rw [h] at hpassed
      cases hpassed
    · exact h
    · rw [h] at hpassed
      cases hpassed
  · rcases hposition' ⟨"creds.json"⟩ (Settings.adapters {} ⟨"creds.json"⟩) "store"
      (load_answeredWorld _ _) rfl rfl with ⟨token, t, h⟩ | ⟨e, t, h⟩ | h
    · rw [h] at hstopped
      cases hstopped
    · rw [h] at hstopped
      cases hstopped
    · exact h

def endlessWorld : World :=
  { World.bare with
    http := ⟨[.ok ⟨200, [], Utf8.encode "\x7b\"access_token\": \"t\", \"expires_in\": 1e999\x7d"⟩],
      .error (.foreign .noHome)⟩ }

def isEndless : Except Failure Token → Bool
  | .error (.foreign (.integer .infinite)) => true
  | _ => false

/-- The granted lifetime passes through the refresh as a number that is no integer. -/
theorem currentToken_endlessWorld :
    ((currentToken 30 lapsed).runOn endlessWorld).1 = .error (.foreign (.integer .infinite)) := by
  have h : isEndless ((currentToken 30 lapsed).runOn endlessWorld).1 = true := by decide +kernel
  rw [isEndless.eq_def] at h
  split at h
  · assumption
  · cases h

end Refresh

end CredentialHelper
