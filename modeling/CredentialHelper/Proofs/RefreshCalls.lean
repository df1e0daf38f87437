import CredentialHelper.Proofs.FormText
import CredentialHelper.Proofs.LoginToken
import CredentialHelper.Proofs.RefreshFailure

/-!
# Many calls for one credential

A credential is asked for its token again and again.  As long as the clock stands still the calls
are alike: either none of them asks anybody and all give the same, or each sends the same request
and makes a token of the answer to it alone.
-/

namespace CredentialHelper

open CredentialHelper.Action World

/-! ## Answers in turn -/

namespace Script

variable {α : Type}

def next (s : Script α) (n : Nat) : List α :=
  (List.range n).map fun i => s.answers.getD i s.otherwise

def dropped (s : Script α) (n : Nat) : Script α := ⟨s.answers.drop n, s.otherwise⟩

theorem next_succ (s : Script α) (n : Nat) : s.next (n + 1) = s.head :: s.tail.next n := by
  have htail (i : Nat) : s.answers.getD (i + 1) s.otherwise =
      s.tail.answers.getD i s.tail.otherwise := by
    rw [tail, List.getD_eq_getElem?_getD, List.getD_eq_getElem?_getD, List.getElem?_drop,
      Nat.add_comm 1]
  have hhead : s.answers.getD 0 s.otherwise = s.head := by
    rw [head]
    cases s.answers <;> rfl
  rw [next, List.range_succ_eq_map, List.map_cons, List.map_map, hhead]
  exact congrArg (s.head :: ·) (List.map_congr_left fun i _ => htail i)

end Script

namespace World

/-- Requests were sent and log records written; nothing else happened. -/
def Sent (requests : List Event) (w t : World) : Prop :=
  ∃ lines, (∀ line ∈ lines, line.isLog = true) ∧
    t = { w with
      http := w.http.dropped requests.length
      events := w.events ++ requests
      journal := w.journal ++ lines }

variable {requests requests' : List Event} {w u t : World}

theorem Sent.refl (w : World) : Sent [] w w := by
  refine ⟨[], by simp, ?_⟩
  simp [Script.dropped]

theorem Sent.trans (h : Sent requests w u) (h' : Sent requests' u t) :
    Sent (requests ++ requests') w t := by
  obtain ⟨lines, hlines, rfl⟩ := h
  obtain ⟨lines', hlines', rfl⟩ := h'
  refine ⟨lines ++ lines', ?_, ?_⟩
  · exact fun line h => (List.mem_append.1 h).elim (hlines line) (hlines' line)
  · simp [Script.dropped, List.drop_drop, List.append_assoc]

instance : Std.Refl (Sent []) := ⟨Sent.refl⟩

instance : IsTrans World (Sent []) := ⟨fun _ _ _ h h' => h.trans h'⟩

theorem sent_note {line : Line} (h : line.isLog = true) (w : World) :
    Sent [] w (Journaled.note line w) := by
  refine ⟨[line], by simpa using h, ?_⟩
  simp [Journaled.note, Script.dropped]

theorem sent_log (level : LogLevel) (area : String) (message : Text) :
    Within (Sent []) (Action.log level area message) := sent_note rfl

theorem sent_send (event : Event) : Within (Sent [event]) (send event) := by
  intro w
  refine ⟨[], by simp, ?_⟩
  simp [send, Script.tail, Script.dropped]

theorem Sent.now (h : Sent requests w t) : t.now = w.now := by
  obtain ⟨lines, -, rfl⟩ := h
  rfl

theorem Sent.http (h : Sent requests w t) : t.http = w.http.dropped requests.length := by
  obtain ⟨lines, -, rfl⟩ := h
  rfl

theorem sent_bind {α β : Type} {a : Action World α} {f : α → Action World β}
    (ha : Within (Sent requests) a) (hf : ∀ x, Within (Sent []) (f x)) :
    Within (Sent requests) (a >>= f) := by
  intro w
  have hafter := (ha w).trans (Within.after a hf w)
  rwa [List.append_nil] at hafter

end World

namespace Refresh

/-! ## The request -/

section

variable {timeout : Int} {c : StoredCredential} {url : Url} {event : Event}

theorem endpoint_of_isAbsolute (h : Url.parse c.tokenUri = .ok url)
    (habsolute : url.isAbsolute = true) : endpoint c = .ok url := by
  rw [endpoint, h]
  dsimp only
  rw [Url.targetError?, if_pos habsolute]
  rfl

/-- The event is the request to a location whose form reads back as exactly the four fields. -/
def Asks (timeout : Int) (c : StoredCredential) (url : Url) (event : Event) : Prop :=
  ∃ form, event =
      .request "POST" url.text form "application/x-www-form-urlencoded" Identity.userAgent
        timeout ∧
    Form.decode form = ([("grant_type", "refresh_token"), ("refresh_token", c.refreshToken),
      ("client_id", c.clientId), ("client_secret", c.clientSecret)] : List (Text × Text))

theorem request_cases (timeout : Int) (h : Url.parse c.tokenUri = .ok url)
    (habsolute : url.isAbsolute = true) :
    (∃ event, request timeout c = .ok (url, event) ∧ Asks timeout c url event ∧
      ∀ f ∈ fields c, Json.Whole f.2) ∨
    ∃ e, request timeout c = .error (.encoding e) ∧ ¬∀ f ∈ fields c, Json.Whole f.2 := by
  have htarget : url.target = url := by rw [Url.target, if_pos habsolute]
  rw [request, endpoint_of_isAbsolute h habsolute, ← Form.exists_encode_iff]
  cases hform : Form.encode (fields c) with
  | error e =>
    refine .inr ⟨e, rfl, ?_⟩
    rintro ⟨form, hok⟩
    cases hok
  | ok form =>
    refine .inl ⟨.request "POST" url.target.text form Form.mediaType Identity.userAgent timeout,
      rfl, ⟨form, ?_, Form.decode_of_encode hform⟩, form, rfl⟩
    rw [htarget]
    rfl

/-! ## One call -/

/-- The outcome of a request depends on the answer alone. -/
theorem answer_congr {w w' : World} (h : w.http.head = w'.http.head) :
    ((answer timeout c).runOn w).1 = ((answer timeout c).runOn w').1 := by
  rw [answer]
  cases request timeout c with
  | error cause => rfl
  | ok sent =>
    simp only [runOn_bind, runOn_attempt, send, runOn_ofFunction, h]
    rcases w'.http.head with (e | cause) | response
    · rfl
    · rfl
    · dsimp only
      cases Response.received sent.1 response with
      | error cause => rfl
      | ok received =>
        dsimp only
        by_cases hstatus : 200 ≤ received.status ∧ received.status < 300
        · simp only [if_pos hstatus]
          cases Response.json received <;> rfl
        · simp only [if_neg hstatus, runOn_bind, runOn_log]
          generalize Refusal.classify _ _ _ _ = r
          cases r <;> rfl

theorem sent_answer {url' : Url} (h : request timeout c = .ok (url', event)) :
    Within (Sent [event]) (answer timeout c) := by
  rw [answer, h]
  refine sent_bind (sent_send event).attempt fun r => ?_
  rcases r with (e | cause) | response
  · exact within_fail _
  · exact within_fail _
  · dsimp only
    cases Response.received url' response with
    | error cause => exact within_fail _
    | ok received =>
      dsimp only
      split
      · split
        · exact within_pure _
        · exact within_fail _
      · refine (sent_log _ _ _).bind fun _ => ?_
        split
        · exact within_fail _
        · exact within_fail _

/-- A world of which nothing is known but the time and the next answer of the network. -/
def answering (now : Instant) (answer : Except Failure Response) : World :=
  { World.bare with now, http := ⟨[answer], answer⟩ }

def outcome (timeout : Int) (c : StoredCredential) (now : Instant)
    (answer : Except Failure Response) : Except Failure Token :=
  ((currentToken timeout c).runOn (answering now answer)).1

theorem currentToken_eq_outcome {w : World} (h : Due c w.now) :
    ((currentToken timeout c).runOn w).1 = outcome timeout c w.now w.http.head := by
  have h' : Due c (answering w.now w.http.head).now := h
  have hanswer : ((answer timeout c).runOn (Journaled.note (refreshingLine c) w)).1 =
      ((answer timeout c).runOn
        (Journaled.note (refreshingLine c) (answering w.now w.http.head))).1 :=
    answer_congr rfl
  rw [outcome, currentToken_of_due h, currentToken_of_due h', hanswer]
  rfl

def renewed (c : StoredCredential) (now : Instant) (answer : Json) : Action World Token := do
  let (value, members) ← Action.ofExcept (granted c answer)
  let expiry ← Action.ofExcept (expiry c now members)
  Action.log .info "store" "Stored credential refreshed"
  Action.ofExcept (token value members expiry)

theorem sent_renewed (c : StoredCredential) (now : Instant) (answer : Json) :
    Within (Sent []) (renewed c now answer) :=
  (within_ofExcept _).bind fun _ => (within_ofExcept _).bind fun _ =>
    (sent_log _ _ _).bind fun _ => within_ofExcept _

theorem runOn_currentToken_of_due {w : World} (hdue : Due c w.now) :
    (currentToken timeout c).runOn w =
      (answer timeout c >>= renewed c w.now).runOn (Journaled.note (refreshingLine c) w) := by
  rw [currentToken, runOn_bind, runOn_get]
  dsimp only
  rw [hdue.1]
  dsimp only
  rw [if_neg fun hnil => hdue.2 (List.isEmpty_iff.1 hnil), runOn_bind, runOn_log]
  rfl

theorem sent_currentToken {url' : Url} {w : World} (hdue : Due c w.now)
    (h : request timeout c = .ok (url', event)) :
    Sent [event] w ((currentToken timeout c).runOn w).2 := by
  rw [runOn_currentToken_of_due hdue]
  exact (sent_note rfl w).trans (sent_bind (sent_answer h) (sent_renewed c w.now) _)

/-- A request that cannot be made is reported, and nothing is sent. -/
theorem runOn_currentToken_of_encoding {e : EncodeError} {w : World} (hdue : Due c w.now)
    (h : request timeout c = .error (.encoding e)) :
    (currentToken timeout c).runOn w =
      (.error (refused c "oauth2: cannot fetch token" (some (.encoding e))),
        Journaled.note (refreshingLine c) w) := by
  rw [runOn_currentToken_of_due hdue, runOn_bind, answer, h]
  rfl

/-- The calls in which nobody is asked, with what they give. -/
inductive Unasked (c : StoredCredential) (now : Instant) : Except Failure Token → Prop
  /-- The token at hand lives. -/
  | live (h : c.token.isLive now.toMoment = .ok true) : Unasked c now (.ok c.token)
  /-- The token does not live, and there is no refresh token. -/
  | refused (h : c.token.isLive now.toMoment = .ok false) (hnone : c.refreshToken = []) :
      Unasked c now
        (.error (.plain .tokenRefresh "no refresh token available" StoreFile.loginFirst))
  /-- A new token is due, but a field with a surrogate stands in no form. -/
  | unencoded {e : EncodeError} (hdue : Due c now) (h : ¬∀ f ∈ fields c, Json.Whole f.2) :
      Unasked c now (.error (refused c "oauth2: cannot fetch token" (some (.encoding e))))
  /-- It cannot be said whether the token lives. -/
  | outOfTime (h : c.token.OutOfTime now) : Unasked c now (.error (.foreign (.range .date)))

/-- The calls in which the endpoint is asked. -/
structure Asking (timeout : Int) (c : StoredCredential) (url : Url) (now : Instant)
    (event : Event) : Prop where
  due : Due c now
  whole : ∀ f ∈ fields c, Json.Whole f.2
  asks : Asks timeout c url event

/-- What calls on a credential come to at a time: what each of them makes of the next answer, and
the requests that it sends. -/
theorem currentToken_cases (timeout : Int) (now : Instant) (h : Url.parse c.tokenUri = .ok url)
    (habsolute : url.isAbsolute = true) :
    (∃ r, Unasked c now r ∧ ∀ w : World, w.now = now →
      ((currentToken timeout c).runOn w).1 = r ∧
        Sent [] w ((currentToken timeout c).runOn w).2) ∨
    ∃ event, Asking timeout c url now event ∧ ∀ w : World, w.now = now →
      ((currentToken timeout c).runOn w).1 = outcome timeout c now w.http.head ∧
        Sent [event] w ((currentToken timeout c).runOn w).2 := by
  cases hlive : c.token.isLive now.toMoment with
  | error e =>
    obtain ⟨rfl, hout⟩ := Token.isLive_eq_error_iff.1 hlive
    refine .inl ⟨_, .outOfTime hout, ?_⟩
    rintro w rfl
    rw [currentToken, runOn_bind, runOn_get]
    dsimp only
    rw [hlive]
    exact ⟨rfl, .refl w⟩
  | ok live =>
    cases live with
    | true =>
      refine .inl ⟨_, .live hlive, ?_⟩
      rintro w rfl
      rw [runOn_currentToken_of_isLive timeout hlive]
      exact ⟨rfl, sent_note rfl w⟩
    | false =>
      by_cases hnone : c.refreshToken = []
      · refine .inl ⟨_, .refused hlive hnone, ?_⟩
        rintro w rfl
        rw [currentToken, runOn_bind, runOn_get]
        dsimp only
        rw [hlive, hnone]
        exact ⟨rfl, .refl w⟩
      · have hdue : Due c now := ⟨hlive, hnone⟩
        rcases request_cases timeout h habsolute with ⟨event, hsent, hasks, hwhole⟩ | ⟨e, he, hnot⟩
        · refine .inr ⟨event, ⟨hdue, hwhole, hasks⟩, ?_⟩
          rintro w rfl
          exact ⟨currentToken_eq_outcome hdue, sent_currentToken hdue hsent⟩
        · refine .inl ⟨_, .unencoded (e := e) hdue hnot, ?_⟩
          rintro w rfl
          rw [runOn_currentToken_of_encoding hdue he]
          exact ⟨rfl, sent_note rfl w⟩

end

/-! ## Many calls -/

def calls (timeout : Int) (c : StoredCredential) : Nat → Action World (List (Except Failure Token))
  | 0 => return []
  | n + 1 => do
    let r ← attempt (currentToken timeout c)
    let rs ← calls timeout c n
    return r :: rs

theorem runOn_calls_succ {timeout : Int} {c : StoredCredential} {n : Nat} {w t : World}
    {rs : List (Except Failure Token)}
    (h : (calls timeout c n).runOn ((currentToken timeout c).runOn w).2 = (.ok rs, t)) :
    (calls timeout c (n + 1)).runOn w = (.ok (((currentToken timeout c).runOn w).1 :: rs), t) := by
  rw [calls, runOn_bind, runOn_attempt]
  dsimp only
  rw [runOn_bind, h]
  rfl

section

variable {timeout : Int} {c : StoredCredential} {now : Instant}

theorem calls_unasked {r : Except Failure Token}
    (h : ∀ w : World, w.now = now → ((currentToken timeout c).runOn w).1 = r ∧
      Sent [] w ((currentToken timeout c).runOn w).2) (n : Nat) (w : World) (hw : w.now = now) :
    ∃ t, (calls timeout c n).runOn w = (.ok (List.replicate n r), t) ∧ Sent [] w t := by
  induction n generalizing w with
  | zero => exact ⟨w, rfl, .refl w⟩
  | succ n ih =>
    obtain ⟨hr, hsent⟩ := h w hw
    obtain ⟨t, hrun, hrest⟩ := ih _ (hsent.now.trans hw)
    refine ⟨t, ?_, hsent.trans hrest⟩
    rw [runOn_calls_succ hrun, hr, List.replicate_succ]

theorem calls_asking {event : Event} {give : Except Failure Response → Except Failure Token}
    (h : ∀ w : World, w.now = now → ((currentToken timeout c).runOn w).1 = give w.http.head ∧
      Sent [event] w ((currentToken timeout c).runOn w).2) (n : Nat) (w : World)
    (hw : w.now = now) :
    ∃ t, (calls timeout c n).runOn w = (.ok ((w.http.next n).map give), t) ∧
      Sent (List.replicate n event) w t := by
  induction n generalizing w with
  | zero => exact ⟨w, rfl, .refl w⟩
  | succ n ih =>
    obtain ⟨hr, hsent⟩ := h w hw
    obtain ⟨t, hrun, hrest⟩ := ih _ (hsent.now.trans hw)
    refine ⟨t, ?_, hsent.trans hrest⟩
    rw [runOn_calls_succ hrun, hr, hsent.http, Script.next_succ, List.map_cons]
    rfl

end

/-- Calls on one credential come to the same each time: either none of them asks anybody, and all
give the same, or each sends the same request to the endpoint, and what it gives depends on the
answer to it and the time alone. -/
theorem calls_alike {timeout : Int} {c : StoredCredential} {url : Url}
    (hurl : Url.parse c.tokenUri = .ok url) (habsolute : url.isAbsolute = true) (n : Nat)
    (w : World) :
    (∃ r t, Unasked c w.now r ∧
      (calls timeout c n).runOn w = (.ok (List.replicate n r), t) ∧ Sent [] w t) ∨
    ∃ event t, Asking timeout c url w.now event ∧
      (calls timeout c n).runOn w =
        (.ok ((w.http.next n).map (outcome timeout c w.now)), t) ∧
      Sent (List.replicate n event) w t := by
  rcases currentToken_cases timeout w.now hurl habsolute with ⟨r, hr, h⟩ | ⟨event, hevent, h⟩
  · obtain ⟨t, hrun, hsent⟩ := calls_unasked h n w rfl
    exact .inl ⟨r, t, hr, hrun, hsent⟩
  · obtain ⟨t, hrun, hsent⟩ := calls_asking h n w rfl
    exact .inr ⟨event, t, hevent, hrun, hsent⟩

def tokenUrl : Url := ⟨"https", "", "oauth2.googleapis.com", none, "/token", none, none⟩

/-- The endpoint is asked for each of two tokens. -/
theorem calls_alike_lapsed :
    Url.parse lapsed.tokenUri = .ok tokenUrl ∧ tokenUrl.isAbsolute = true ∧
      ∃ event t, Asking 30 lapsed tokenUrl endlessWorld.now event ∧
        (calls 30 lapsed 2).runOn endlessWorld =
          (.ok ((endlessWorld.http.next 2).map (outcome 30 lapsed endlessWorld.now)), t) ∧
        Sent [event, event] endlessWorld t := by
  have hparse : Url.parse lapsed.tokenUri = .ok tokenUrl := by decide +kernel
  have habsolute : tokenUrl.isAbsolute = true := by decide
  refine ⟨hparse, habsolute, ?_⟩
  have hlapsed : lapsed.token.isLive endlessWorld.now.toMoment = .ok false := rfl
  have hwhole : ∀ f ∈ fields lapsed, Json.Whole f.2 := by
    unfold Json.Whole
    decide +kernel
  refine (calls_alike hparse habsolute 2 endlessWorld).resolve_left ?_
  rintro ⟨r, t, hr, -⟩
  cases hr with
  | live hlive => cases hlive.symm.trans hlapsed
  | refused hlive hnone => cases hnone
  | unencoded hdue hnot => exact hnot hwhole
  | outOfTime hout => exact hout.1 rfl

/-- A credential whose token expires in front of the first year. -/
def untimely : StoredCredential :=
  { accessToken := "t", refreshToken := "1//r", expiry := some Token.firstMidnight }

/-- Whether such a token lives cannot be said, and it is not refreshed. -/
theorem calls_untimely :
    untimely.refreshToken ≠ [] ∧
      ((calls 30 untimely 1).runOn World.bare).1 = .ok [.error (.foreign (.range .date))] ∧
      ((calls 30 untimely 1).runOn World.bare).2.events = [] := ⟨by decide, rfl, rfl⟩

end Refresh

end CredentialHelper
