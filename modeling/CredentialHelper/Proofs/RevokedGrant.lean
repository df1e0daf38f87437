import CredentialHelper.Proofs.Sources

/-!
# When a source reports a revoked grant

A source reports a revoked grant in two cases only: the token endpoint refuses to refresh the stored
credential with one exact pair of codes, or the authentication library says in one of two ways that
the user has to log in again.  `revokes_resolve` of each source gives its case as an equivalence.
-/

namespace CredentialHelper

open CredentialHelper.Action World

/-! ## Outcomes that report a revoked grant -/

namespace ErrorKind

def isRevokedGrant : ErrorKind → Bool
  | .revokedGrant _ _ => true
  | _ => false

theorem isSourceFailure_of_isRevokedGrant {kind : ErrorKind} (h : kind.isRevokedGrant = true) :
    kind.isSourceFailure = true := by
  cases kind <;> first | rfl | cases h

end ErrorKind

def Failure.revokes : Failure → Bool
  | .helper e => e.kind.isRevokedGrant
  | .foreign _ => false

def revokes {α : Type} : Except Failure α → Bool
  | .error f => f.revokes
  | .ok _ => false

section

variable {α : Type}

@[simp] theorem revokes_ok (x : α) : revokes (.ok x) = false := rfl

@[simp] theorem revokes_helper (e : HelperError) :
    revokes (.error (.helper e) : Except Failure α) = e.kind.isRevokedGrant := rfl

@[simp] theorem revokes_foreign (c : Cause) :
    revokes (.error (.foreign c) : Except Failure α) = false := rfl

end

theorem revokes_map {α β : Type} (f : α → β) (r : Except Failure α) :
    revokes (r.map f) = revokes r := by
  cases r <;> rfl

/-- An action that never reports a revoked grant. -/
def Spares {σ α : Type} (a : Action σ α) : Prop := ∀ s, revokes (a.runOn s).1 = false

section

variable {σ α β : Type}

theorem spares_ofExcept {r : Except Failure α} (h : revokes r = false) :
    Spares (Action.ofExcept r : Action σ α) :=
  fun _ => h

theorem spares_log [Journaled σ] (level : LogLevel) (area : String) (message : Text) :
    Spares (log level area message : Action σ Unit) :=
  fun _ => rfl

theorem revokes_bind_of_spares {a : Action σ α} (h : Spares a) (f : α → Action σ β) (s : σ) :
    revokes ((a >>= f).runOn s).1 = true ↔
      ∃ x, (a.runOn s).1 = .ok x ∧ revokes ((f x).runOn (a.runOn s).2).1 = true := by
  have hs := h s
  rw [runOn_bind]
  rcases hrun : a.runOn s with ⟨e | x, t⟩
  · rw [hrun] at hs
    constructor
    · intro hf
      exact absurd (hf.symm.trans hs) Bool.true_eq_false.mp
    · rintro ⟨x, hx, -⟩
      cases hx
  · constructor
    · intro hf
      exact ⟨x, rfl, hf⟩
    · rintro ⟨_, hx, hf⟩
      cases hx
      exact hf

theorem revokes_bind_spares (a : Action σ α) {f : α → Action σ β} (h : ∀ x, Spares (f x)) (s : σ) :
    revokes ((a >>= f).runOn s).1 = revokes (a.runOn s).1 := by
  rw [runOn_bind]
  rcases a.runOn s with ⟨e | x, t⟩
  · rfl
  · exact h x t

theorem Spares.bind {a : Action σ α} {f : α → Action σ β} (h : Spares a)
    (hf : ∀ x, Spares (f x)) : Spares (a >>= f) := by
  intro s
  rw [revokes_bind_spares a hf]
  exact h s

end

def Failure.IsForeign (f : Failure) : Prop := ∃ c, f = .foreign c

/-- No collaborator reports an error of the helper as its own. -/
structure World.Foreign (w : World) : Prop where
  http : w.http.All fun answer => ∀ f, answer = .error f → f.IsForeign
  programs : w.programs.All fun run => ∀ f, run = .failed f → f.IsForeign
  detections : w.detections.All fun detection => (∀ f, detection = .error f → f.IsForeign) ∧
    ∀ d, detection = .ok d → ∀ f, d.refresh = .error f → f.IsForeign

theorem World.Foreign.advances {w t : World} (h : w.Foreign) (ha : w.Advances t) : t.Foreign :=
  ⟨h.http.later ha.http, h.programs.later ha.programs, h.detections.later ha.detections⟩

/-! ## Refusals -/

namespace Refusal

def HasRevokedPair (members : Members) : Prop :=
  members.get? (Text.ofString "error") = some (.string (Text.ofString "invalid_grant")) ∧
    members.get? (Text.ofString "error_subtype") = some (.string (Text.ofString "invalid_rapt"))

theorem names_eq_true_iff {members : Members} {name : String} {value : Text} :
    names members name value = true ↔
      members.get? (Text.ofString name) = some (.string value) := by
  rw [names]
  split
  · next t h => rw [h, beq_iff_eq, Option.some.injEq, Json.string.injEq]
  · next h =>
    constructor
    · intro h'
      cases h'
    · intro h'
      exact absurd h' (h value)

theorem isRevoked_iff {members : Members} : isRevoked members = true ↔ HasRevokedPair members := by
  rw [isRevoked, Bool.and_eq_true, names_eq_true_iff, names_eq_true_iff]
  exact Iff.rfl

theorem kind_because (entry : ErrorEntry) (f : Failure) :
    (HelperError.because entry f).kind = entry.kind := by
  cases f <;> rfl

/-- A refusal is classified as a revoked grant by its pair of codes alone. -/
theorem revokes_classify (message : Text) (body : Argument) (cause : Failure)
    {fallback : ErrorKind} (hfallback : fallback.isRevokedGrant = false) :
    (∃ e, classify message body cause fallback = .ok e ∧ e.kind.isRevokedGrant = true) ↔
      ∃ members, decode body = .ok (some members) ∧ HasRevokedPair members := by
  rw [classify]
  cases h : decode body with
  | error c =>
    constructor
    · rintro ⟨e, he, -⟩
      cases he
    · rintro ⟨members, hmembers, -⟩
      cases hmembers
  | ok decoded =>
    cases decoded with
    | none =>
      constructor
      · rintro ⟨e, he, hkind⟩
        cases he
        rw [kind_because, hfallback] at hkind
        cases hkind
      · rintro ⟨members, hmembers, -⟩
        cases hmembers
    | some members =>
      simp only [Except.ok.injEq, Option.some.injEq, exists_eq_left']
      rw [← isRevoked_iff]
      by_cases hrevoked : isRevoked members = true
      · simp only [bind, Except.bind, hrevoked, if_true]
        constructor
        · intro _
          trivial
        · intro _
          exact ⟨_, rfl, by rw [revoked, kind_because]; rfl⟩
      · simp only [bind, Except.bind, hrevoked]
        constructor
        · rintro ⟨e, he, hkind⟩
          cases he
          rw [kind_because, hfallback] at hkind
          cases hkind
        · intro h'
          cases h'

end Refusal

/-! ## The store source -/

theorem StoreFile.kind_of_readError {path : Text} {cause : Cause} {e : HelperError}
    (h : readError path cause = some e) : e.kind = .storeRead := by
  rw [readError.eq_def] at h
  split at h
  · split at h <;> cases h <;> rfl
  · cases h
    rfl
  · cases h

theorem StoreFile.revokes_read (tree : FileTree) (path : Text) :
    revokes (StoreFile.read tree path) = false := by
  rw [StoreFile.read_def]
  split
  · split
    · next e h =>
      rw [revokes_helper, kind_of_readError h]
      rfl
    · rfl
  · rfl
  · rfl

theorem StoreFile.revokes_credential (path : Text) (members : Members) :
    revokes (StoreFile.credential path members) = false := by
  rw [StoreFile.credential]
  split
  · rfl
  · split <;> rfl

theorem CredentialStore.revokes_load (s : CredentialStore) (w : World) :
    revokes (s.load.runOn w).1 = false := by
  rw [runOn_load]
  have hread := StoreFile.revokes_read w.files s.path
  cases h : StoreFile.read w.files s.path with
  | error f =>
    rw [h] at hread
    exact hread
  | ok members => exact StoreFile.revokes_credential s.path members

namespace Refresh

/-- The token endpoint refuses to refresh a credential with the pair of codes of a revoked grant. -/
def Refused (timeout : Int) (c : StoredCredential) (w : World) : Prop :=
  ∃ url event response received members, request timeout c = .ok (url, event) ∧
    w.http.head = .ok response ∧ Response.received url response = .ok received ∧
    ¬(200 ≤ received.status ∧ received.status < 300) ∧
    Refusal.decode (.bytes received.body) = .ok (some members) ∧ Refusal.HasRevokedPair members

theorem refused_iff_of_received {timeout : Int} {c : StoredCredential} {w : World} {url : Url}
    {event : Event} {response received : Response} (hrequest : request timeout c = .ok (url, event))
    (hanswer : w.http.head = .ok response)
    (hreceived : Response.received url response = .ok received) :
    Refused timeout c w ↔ ¬(200 ≤ received.status ∧ received.status < 300) ∧
      ∃ members, Refusal.decode (.bytes received.body) = .ok (some members) ∧
        Refusal.HasRevokedPair members := by
  constructor
  · rintro ⟨_, _, _, _, members, hrequest', hanswer', hreceived', hstatus, h⟩
    cases hrequest.symm.trans hrequest'
    cases hanswer.symm.trans hanswer'
    cases hreceived.symm.trans hreceived'
    exact ⟨hstatus, members, h⟩
  · rintro ⟨hstatus, members, h⟩
    exact ⟨url, event, response, received, members, hrequest, hanswer, hreceived, hstatus, h⟩

theorem revokes_answer {timeout : Int} {c : StoredCredential} {w : World} (hw : w.Foreign) :
    revokes ((answer timeout c).runOn w).1 = true ↔ Refused timeout c w := by
  have hunanswered (cause : Cause) : revokes
      (.error (if isReported cause = true then refused c "oauth2: cannot fetch token" (some cause)
        else .foreign cause) : Except Failure Json) = false := by
    by_cases h : isReported cause = true
    · rw [if_pos h]
      rfl
    · rw [if_neg h]
      rfl
  rw [answer]
  cases hrequest : request timeout c with
  | error cause => simp [hunanswered, Refused, hrequest]
  | ok pair =>
    obtain ⟨url, event⟩ := pair
    rw [runOn_bind, runOn_attempt, send, runOn_ofFunction]
    have hhead := hw.http.head
    cases hanswer : w.http.head with
    | error f =>
      obtain ⟨cause, rfl⟩ := hhead f hanswer
      simp [hunanswered, Refused, hrequest, hanswer]
    | ok response =>
      cases hreceived : Response.received url response with
      | error cause => simp [hunanswered, Refused, hrequest, hanswer, hreceived]
      | ok received =>
        rw [refused_iff_of_received hrequest hanswer hreceived]
        by_cases hstatus : 200 ≤ received.status ∧ received.status < 300
        · refine iff_of_false ?_ fun h => h.1 hstatus
          cases hjson : Response.json received with
          | error cause => simp [hunanswered, hreceived, hstatus, hjson]
          | ok v => simp [hreceived, hstatus, hjson]
        · rw [and_iff_right hstatus, ← Refusal.revokes_classify "oauth2: cannot fetch token"
            (.bytes received.body) (.foreign (.status ⟨received.status, url.target.text,
              Response.location? received, received.body⟩))
            (show ErrorKind.tokenRefresh.isRevokedGrant = false from rfl)]
          cases h : Refusal.classify "oauth2: cannot fetch token" (.bytes received.body)
            (.foreign (.status ⟨received.status, url.target.text, Response.location? received,
              received.body⟩)) .tokenRefresh with
          | error cause => simp [hreceived, hstatus, runOn_bind, h]
          | ok e => simp [hreceived, hstatus, runOn_bind, h]

theorem revokes_granted (c : StoredCredential) (v : Json) : revokes (granted c v) = false := by
  rw [granted.eq_def]
  split
  · split <;> rfl
  · rfl

theorem revokes_expiry (c : StoredCredential) (now : Instant) (members : Members) :
    revokes (expiry c now members) = false := by
  rw [expiry]
  split
  · rfl
  · split
    · rfl
    · split
      · rfl
      · rfl
      · split <;> rfl

theorem revokes_token (v : Json) (members : Members) (expiry : Option Instant) :
    revokes (token v members expiry) = false := by
  rw [token]
  split <;> rfl

theorem revokes_currentToken {timeout : Int} {c : StoredCredential} {w : World} (hw : w.Foreign) :
    revokes ((currentToken timeout c).runOn w).1 = true ↔
      c.token.isLive w.now.toMoment = .ok false ∧ c.refreshToken ≠ [] ∧ Refused timeout c w := by
  rw [currentToken, runOn_bind, runOn_get]
  dsimp only
  cases hlive : c.token.isLive w.now.toMoment with
  | error e => simp
  | ok live =>
    cases live with
    | true => simp [runOn_map, Except.map]
    | false =>
      by_cases hrefresh : c.refreshToken = []
      · simp only [hrefresh, List.isEmpty_nil, if_true, runOn_fail, ne_eq, not_true, false_and,
          and_false, iff_false]
        exact Bool.false_ne_true
      · have hlogged : (Journaled.note (.log ⟨.debug, "store",
            "Refreshing stored credential against " ++ c.tokenUri⟩) w).Foreign :=
          hw.advances (advances_note w rfl)
        simp only [List.isEmpty_iff, hrefresh, if_false, ne_eq, not_false_iff, true_and]
        rw [runOn_bind, runOn_log]
        dsimp only
        rw [revokes_bind_spares, revokes_answer hlogged]
        · rfl
        · intro answer
          refine (spares_ofExcept (revokes_granted c answer)).bind fun granted => ?_
          refine (spares_ofExcept (revokes_expiry c _ _)).bind fun expiry => ?_
          exact (spares_log _ _ _).bind fun _ => spares_ofExcept (revokes_token _ _ _)

end Refresh

/-- The store source reports a revoked grant: its credential can be loaded and is expired, and the
endpoint refuses to refresh it. -/
def StoreSource.Revoked (store : CredentialStore) (timeout : Int) (w : World) : Prop :=
  ∃ c, (store.load.runOn w).1 = .ok c ∧ c.token.isLive w.now.toMoment = .ok false ∧
    c.refreshToken ≠ [] ∧ Refresh.Refused timeout c w

theorem StoreSource.revokes_resolve {store : CredentialStore} {timeout : Int} {w : World}
    (hw : w.Foreign) :
    revokes ((resolve store timeout).runOn w).1 = true ↔ Revoked store timeout w := by
  have hloaded : (store.load.runOn w).2.Foreign := hw.advances (store.within_load w)
  rw [resolve, revokes_bind_of_spares store.revokes_load, Revoked]
  refine exists_congr fun c => and_congr_right fun _ => ?_
  rw [revokes_bind_spares, Refresh.revokes_currentToken hloaded]
  · rfl
  · intro token v
    rw [runOn_bind, runOn_get]
    dsimp only
    split <;> rfl

/-! ## The other sources -/

theorem Command.revokes_output {c : Command} {argv : List Text} {run : ProgramRun}
    (h : ∀ f, run = .failed f → f.IsForeign) : revokes (c.output argv run) = false := by
  cases run with
  | ended status stdout stderr =>
    rw [output]
    split <;> rfl
  | timedOut => rfl
  | absent => rfl
  | failed f =>
    obtain ⟨cause, rfl⟩ := h f rfl
    cases cause with
    | collaborator e =>
      rw [output]
      split <;> rfl
    | _ => rfl

theorem GcloudSource.revokes_wrapped (f : Failure) :
    revokes (.error (wrapped f) : Except Failure Text) =
      revokes (.error f : Except Failure Text) := by
  cases f with
  | helper e =>
    rw [wrapped]
    split
    · next h =>
      rw [revokes_helper, revokes_helper, h]
      rfl
    · rfl
  | foreign c => rfl

theorem GcloudSource.revokes_resolve {c : Command} {w : World} (hw : w.Foreign) :
    revokes ((GcloudSource.resolve c).runOn w).1 = false := by
  have hrun : revokes ((c.run Default.gcloudArguments).runOn w).1 = false := by
    rw [Command.run, runOn_bind, runOn_log]
    dsimp only
    rw [runOn_bind, start, runOn_ofFunction]
    exact Command.revokes_output hw.programs.head
  rw [resolve, runOn_bind, runOn_attempt]
  dsimp only
  cases h : ((c.run Default.gcloudArguments).runOn w).1 with
  | error f =>
    rw [h] at hrun
    exact (revokes_wrapped f).trans hrun
  | ok stdout =>
    rw [runOn_ofExcept, tokenOf]
    dsimp only
    split <;> rfl

def AmbientSource.RevokedBody (arguments : List Argument) : Prop :=
  ∃ before body after members, arguments = before ++ body :: after ∧
    (∀ a ∈ before, Refusal.decode a = .ok none) ∧ Refusal.decode body = .ok (some members) ∧
    Refusal.HasRevokedPair members

/-- The ambient source reports a revoked grant: a credential is detected, and the library refuses to
refresh it with a text that asks for a login or with the body of a refusal. -/
def AmbientSource.Revoked (w : World) : Prop :=
  ∃ d e, w.detections.head = .ok d ∧ d.refresh = .error (.foreign (.collaborator e)) ∧
    e.isRefresh = true ∧
    ((∃ t, .data (.string t) ∈ e.held ∧ reauthNeeded <+: t) ∨ RevokedBody e.held)

namespace AmbientSource

theorem asksForLogin_iff {arguments : List Argument} :
    arguments.any asksForLogin = true ↔
      ∃ t, .data (.string t) ∈ arguments ∧ reauthNeeded <+: t := by
  rw [List.any_eq_true]
  constructor
  · rintro ⟨a, ha, h⟩
    rw [asksForLogin.eq_def] at h
    split at h
    · next t => exact ⟨t, ha, List.isPrefixOf_iff_prefix.1 h⟩
    · cases h
  · rintro ⟨t, ht, hfront⟩
    exact ⟨_, ht, List.isPrefixOf_iff_prefix.2 hfront⟩

theorem revokedBody_cons {a : Argument} {rest : List Argument} :
    RevokedBody (a :: rest) ↔
      (∃ members, Refusal.decode a = .ok (some members) ∧ Refusal.HasRevokedPair members) ∨
        Refusal.decode a = .ok none ∧ RevokedBody rest := by
  constructor
  · rintro ⟨before, body, after, members, h, hbefore, hbody⟩
    cases before with
    | nil =>
      cases h
      exact .inl ⟨members, hbody⟩
    | cons b before =>
      cases h
      exact .inr ⟨hbefore a (List.mem_cons_self ..), before, body, after, members, rfl,
        fun b hb => hbefore b (List.mem_cons_of_mem _ hb), hbody⟩
  · rintro (⟨members, hbody⟩ | ⟨hnone, before, body, after, members, rfl, hbefore, hbody⟩)
    · exact ⟨[], a, rest, members, rfl, nofun, hbody⟩
    · refine ⟨a :: before, body, after, members, rfl, ?_, hbody⟩
      rintro b (_ | ⟨_, hb⟩)
      · exact hnone
      · exact hbefore b hb

/-- The body that decides is the first argument that is an object. -/
theorem classify_firstBody {arguments : List Argument} (message : Text) (cause : Failure)
    {fallback : ErrorKind} (hfallback : fallback.isRevokedGrant = false) :
    (∃ e, (firstBody arguments >>= fun body =>
        Refusal.classify message body cause fallback) = .ok e ∧
        e.kind.isRevokedGrant = true) ↔ RevokedBody arguments := by
  induction arguments with
  | nil =>
    refine (Refusal.revokes_classify message (.data .null) cause hfallback).trans
      (iff_of_false ?_ ?_)
    · rintro ⟨members, h, -⟩
      cases h
    · rintro ⟨before, body, after, members, h, -⟩
      cases before <;> cases h
  | cons a rest ih =>
    rw [firstBody, revokedBody_cons]
    cases hdecode : Refusal.decode a with
    | error c =>
      refine iff_of_false ?_ ?_
      · rintro ⟨e, he, -⟩
        cases he
      · rintro (⟨members, h, -⟩ | ⟨h, -⟩) <;> cases h
    | ok decoded =>
      cases decoded with
      | none =>
        rw [or_iff_right (by rintro ⟨members, h, -⟩; cases h), and_iff_right rfl]
        exact ih
      | some members =>
        rw [or_iff_left (by rintro ⟨h, -⟩; cases h)]
        refine (Refusal.revokes_classify message a cause hfallback).trans ?_
        rw [hdecode]

theorem revokes_refreshFailure (e : CollaboratorError) :
    (refreshFailure e).revokes = true ↔
      (∃ t, .data (.string t) ∈ e.held ∧ reauthNeeded <+: t) ∨ RevokedBody e.held := by
  rw [← asksForLogin_iff, refreshFailure]
  by_cases hasks : e.held.any asksForLogin = true
  · rw [if_pos hasks]
    exact iff_of_true rfl (.inl hasks)
  · rw [if_neg hasks, or_iff_right hasks,
      ← classify_firstBody fetchFailed (.foreign (.collaborator e))
        (show ErrorKind.service.isRevokedGrant = false from rfl)]
    split
    · next error h =>
      rw [h]
      simp [Failure.revokes]
    · next c h =>
      rw [h]
      simp [Failure.revokes]

theorem revokes_fetchFailure {f : Failure} (hf : f.IsForeign) :
    (fetchFailure f).revokes = true ↔
      ∃ e, f = .foreign (.collaborator e) ∧ e.isRefresh = true ∧
        ((∃ t, .data (.string t) ∈ e.held ∧ reauthNeeded <+: t) ∨ RevokedBody e.held) := by
  obtain ⟨cause, rfl⟩ := hf
  cases cause with
  | collaborator e =>
    rw [fetchFailure]
    by_cases hrefresh : e.isRefresh = true
    · rw [if_pos hrefresh, revokes_refreshFailure]
      simp [hrefresh]
    · rw [if_neg hrefresh]
      simp only [Failure.foreign.injEq, Cause.collaborator.injEq, exists_eq_left', hrefresh]
      split <;>
        simp [Failure.revokes, ErrorKind.isRevokedGrant, HelperError.kind, HelperError.entry]
  | _ => simp [fetchFailure, Failure.revokes]

theorem revokes_detectionFailure {f : Failure} (hf : f.IsForeign) :
    (detectionFailure f).revokes = false := by
  obtain ⟨cause, rfl⟩ := hf
  cases cause with
  | collaborator e =>
    rw [detectionFailure]
    split <;> rfl
  | _ => rfl

theorem revokes_accept (token : Option Token) (now : Instant) :
    revokes (accept token now) = false := by
  rw [accept.eq_def]
  dsimp only
  split
  · rfl
  · split
    · rfl
    · rfl
    · split <;> rfl

theorem revokes_resolve {scopes : List Text} {w : World} (hw : w.Foreign) :
    revokes ((resolve defaultDetector scopes).runOn w).1 = true ↔ Revoked w := by
  have hhead := hw.detections.head
  rw [runOn_resolve, Revoked]
  dsimp only
  cases hdetected : w.detections.head with
  | error f =>
    have hf : revokes (.error (detectionFailure f) : Except Failure Text) = false :=
      revokes_detectionFailure (hhead.1 f hdetected)
    simp [hf]
  | ok d =>
    dsimp only
    rw [Detected.token]
    cases hrefresh : d.refresh with
    | error f =>
      refine Iff.trans (revokes_fetchFailure (hhead.2 d hdetected f hrefresh)) ?_
      simp [hrefresh]
    | ok r =>
      have hnot : ¬∃ d' e, (.ok d : Except Failure Detected) = .ok d' ∧
          d'.refresh = .error (.foreign (.collaborator e)) ∧ e.isRefresh = true ∧
          ((∃ t, .data (.string t) ∈ e.held ∧ reauthNeeded <+: t) ∨ RevokedBody e.held) := by
        rintro ⟨_, e, hd, h, -⟩
        cases hd
        rw [hrefresh] at h
        cases h
      rw [iff_false_intro hnot, iff_false, Bool.not_eq_true]
      dsimp only
      cases r.expiry with
      | none => exact revokes_accept _ _
      | some expiry =>
        dsimp only
        cases expiry.utc? with
        | none => rfl
        | some t => exact revokes_accept _ _

end AmbientSource

end CredentialHelper
