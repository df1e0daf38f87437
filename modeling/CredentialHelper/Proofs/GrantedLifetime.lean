import CredentialHelper.Proofs.RefreshFailure

/-!
# The lifetime of a new token

A token that the endpoint grants is taken if its lifetime, in whole seconds, is more than ten, or if
the answer states none.  A lifetime of zero counts as none stated.
-/

namespace CredentialHelper

/-! ## Times that lie some seconds ahead -/

theorem Refresh.later_of_addSeconds? {now t : Instant} {seconds : Int}
    (h : now.addSeconds? seconds = some t) : later now seconds = .ok t := by
  have hval := Instant.val_of_addSeconds? h
  have hnow := now.isLt
  have ht := t.isLt
  have hrange : microsInRange = 315537897600000000 := rfl
  -- both instants lie in the years 1 to 9999, and so do the days between them
  have hdays : -3652059 ≤ Int.fdiv seconds 86400 ∧ Int.fdiv seconds 86400 ≤ 3652059 := by
    rw [Int.fdiv_eq_ediv_of_nonneg _ (by decide)]
    omega
  rw [later, if_neg (by omega), if_neg (by omega), h]

/-! ## The token in an answer -/

namespace Refresh

variable {now : Instant} {members : Members} {text : Text}

/-- The type of the token in an answer, if it is stated, is a text. -/
def Typed (members : Members) : Prop :=
  ∃ type, (members.get? (Text.ofString "token_type")).getD (Json.ofString Default.bearer) =
    .string type

theorem token_of_typed (text : Text) (h : Typed members) (expiry : Option Instant) :
    ∃ type, token (.string text) members expiry =
      .ok ⟨text, type, expiry.map Instant.toMoment⟩ := by
  obtain ⟨type, htype⟩ := h
  refine ⟨type, ?_⟩
  rw [token, htype]
  simp [Token.ofMembers, Validation.required, Validation.optional, Members.get?,
    Text.ofString_eq_iff, Validation.field, Validation.readText]

theorem tokenIssues_of_not_typed (h : ¬Typed members) :
    tokenIssues (.string text) members ≠ [] := by
  rw [tokenIssues]
  rcases field_readText "token_type" ((members.get? (Text.ofString "token_type")).getD
    (Json.ofString Default.bearer)) with ⟨type, htype, -⟩ | ⟨-, hissues⟩
  · exact absurd ⟨type, htype⟩ h
  · exact fun hnil => hissues (List.append_eq_nil_iff.1 hnil).2

theorem expiry_of_absent (c : StoredCredential)
    (h : members.get? (Text.ofString "expires_in") = none) : expiry c now members = .ok none := by
  rw [expiry, h]

/-- A lifetime of zero is taken as absent. -/
theorem expiry_of_zero (c : StoredCredential)
    (h : members.get? (Text.ofString "expires_in") = some (.int 0)) :
    expiry c now members = .ok none := by
  rw [expiry, h]
  rfl

theorem expiry_of_ne_zero (c : StoredCredential) {n : Int} {t : Instant}
    (h : members.get? (Text.ofString "expires_in") = some (.int n)) (hn : n ≠ 0)
    (ht : now.addSeconds? n = some t) : expiry c now members = .ok (some t) := by
  have hpresent : (!Json.isPresent (.int n)) = false := by simp [Json.isPresent, hn]
  rw [expiry, h]
  dsimp only
  rw [hpresent, if_neg Bool.false_ne_true, lifetimeSeconds]
  dsimp only
  rw [later_of_addSeconds? ht]

/-- The lifetime that an answer states as an integer, if it states one, leads to a date. -/
def Dated (now : Instant) (lifetime : Option Int) : Prop :=
  ∀ n ∈ lifetime, ∃ t, now.addSeconds? n = some t

theorem expiry_of_dated (c : StoredCredential) {lifetime : Option Int}
    (h : members.get? (Text.ofString "expires_in") = lifetime.map .int)
    (hdated : Dated now lifetime) : ∃ e, expiry c now members = .ok e := by
  cases lifetime with
  | none => exact ⟨none, expiry_of_absent c h⟩
  | some n =>
    obtain ⟨t, ht⟩ := hdated n rfl
    by_cases hn : n = 0
    · subst hn
      exact ⟨none, expiry_of_zero c h⟩
    · exact ⟨some t, expiry_of_ne_zero c h hn ht⟩

end Refresh

/-! ## The token that the source gives -/

namespace StoreSource

open Refresh

/-- The stored credential has to be refreshed, and the endpoint answers with a token and, it may be,
the lifetime of that in seconds. -/
structure Offered (store : CredentialStore) (timeout : Int) (w : World) (text : Text)
    (lifetime : Option Int) (c : StoredCredential) (members : Members) : Prop where
  loaded : (store.load.runOn w).1 = .ok c
  due : Due c w.now
  answered : Answers timeout c w.http.head (.object members)
  token : members.get? (Text.ofString "access_token") = some (.string text)
  nonempty : text ≠ []
  states : members.get? (Text.ofString "expires_in") = lifetime.map .int
  dated : Dated w.now lifetime

variable {store : CredentialStore} {timeout : Int} {w : World} {text : Text}
  {lifetime : Option Int} {c : StoredCredential} {members : Members}

/-- A type that is no text is refused by the form of tokens, which is no failure of the source. -/
theorem resolve_of_not_typed (h : Offered store timeout w text lifetime c members)
    (htyped : ¬Typed members) :
    ((resolve store timeout).runOn w).1 =
      .error (.foreign (.invalid ⟨Token.formName, tokenIssues (.string text) members⟩)) := by
  have hnow := (store.within_load w).now
  obtain ⟨e, hexpiry⟩ := expiry_of_dated c h.states h.dated
  have hescapes : Refresh.Escapes timeout c (store.load.runOn w).2.now
      (store.load.runOn w).2.http.head
      (.invalid ⟨Token.formName, tokenIssues (.string text) members⟩) := by
    rw [hnow, http_of_load]
    exact .form h.due ⟨h.answered, h.token⟩ hexpiry (tokenIssues_of_not_typed htyped)
  rw [resolve_of_load timeout h.loaded, currentToken_of_escapes hescapes]
  rfl

def settle (now : Instant) (text : Text) : Option Instant → Except Failure Text
  | none => .ok text
  | some t => verdict text (Token.outlasts t.toMoment now.toMoment)

theorem resolve_of_expiry {e : Option Instant} (h : Offered store timeout w text lifetime c members)
    (htyped : Typed members) (hexpiry : expiry c w.now members = .ok e) :
    ((resolve store timeout).runOn w).1 = settle w.now text e := by
  have hnow := (store.within_load w).now
  obtain ⟨type, htoken⟩ := token_of_typed text htyped e
  have hgrants : Grants timeout c (store.load.runOn w).2.http.head (.string text) members := by
    rw [http_of_load]
    exact ⟨h.answered, h.token⟩
  have hcurrent : ((currentToken timeout c).runOn (store.load.runOn w).2).1 =
      .ok ⟨text, type, e.map Instant.toMoment⟩ := by
    rw [currentToken_of_grants (hnow ▸ h.due) hgrants, hnow, hexpiry]
    exact htoken
  rw [resolve_of_load timeout h.loaded, hcurrent]
  dsimp only [Except.bind]
  cases e with
  | none =>
    rw [Token.isLive_of_no_expiry rfl, decide_eq_true h.nonempty]
    rfl
  | some t =>
    dsimp only [Option.map_some]
    rw [Token.isLive_of_expiry rfl, Token.isValid_of_expiry h.nonempty rfl, settle]

/-- Whether an expiry some seconds ahead is more than ten seconds ahead. -/
theorem settle_of_seconds {now t : Instant} {n : Int} (ht : now.addSeconds? n = some t) :
    settle now text (some t) =
      verdict text (if InYears (now.val + 10 * 1000000) then .ok (decide (10 < n))
        else .error .date) := by
  have hval := Instant.val_of_addSeconds? ht
  dsimp only [settle]
  rw [Token.outlasts_eq, Instant.micros_toMoment, Instant.micros_toMoment]
  by_cases hyears : InYears (now.val + 10 * 1000000)
  · -- the instant of the expiry is known to lie in range, that of the limit only by hypothesis
    have hcomparable : Token.Comparable t.toMoment now.toMoment := by
      rw [Token.comparable_iff, Instant.micros_toMoment, Instant.micros_toMoment]
      exact ⟨t.inYears, now.inYears, hyears⟩
    have hlt : (now.val : Int) + 10 * 1000000 < t.val ↔ 10 < n := by omega
    rw [if_pos hcomparable, if_pos hyears, decide_eq_decide.2 hlt]
  · have hnot : ¬Token.Comparable t.toMoment now.toMoment := by
      rw [Token.comparable_iff, Instant.micros_toMoment, Instant.micros_toMoment]
      exact fun h => hyears h.2.2
    rw [if_neg hnot, if_neg hyears]

theorem resolve_of_unstated (h : Offered store timeout w text lifetime c members)
    (htyped : Typed members) (hunstated : lifetime = none ∨ lifetime = some 0) :
    ((resolve store timeout).runOn w).1 = .ok text := by
  have hstates := h.states
  rcases hunstated with rfl | rfl
  · exact resolve_of_expiry h htyped (expiry_of_absent c hstates)
  · exact resolve_of_expiry h htyped (expiry_of_zero c hstates)

theorem resolve_of_stated {n : Int} (h : Offered store timeout w text (some n) c members)
    (htyped : Typed members) (hn : n ≠ 0) :
    ((resolve store timeout).runOn w).1 =
      verdict text (if InYears (w.now.val + 10 * 1000000) then .ok (decide (10 < n))
        else .error .date) := by
  obtain ⟨t, ht⟩ := h.dated n rfl
  rw [resolve_of_expiry h htyped (expiry_of_ne_zero c h.states hn ht), settle_of_seconds ht]

/-- The source takes a new token if its lifetime is not stated, zero or more than ten seconds, and
refuses it otherwise.  Among the lifetimes other than zero, a longer one is never worse. -/
theorem accepts_by_lifetime (h : Offered store timeout w text lifetime c members) :
    (¬Typed members → ((resolve store timeout).runOn w).1 =
      .error (.foreign (.invalid ⟨Token.formName, tokenIssues (.string text) members⟩))) ∧
    (Typed members →
      (lifetime = none ∨ lifetime = some 0 → ((resolve store timeout).runOn w).1 = .ok text) ∧
      (∀ n, lifetime = some n → n ≠ 0 → InYears (w.now.val + 10 * 1000000) →
        ((resolve store timeout).runOn w).1 =
          if 10 < n then .ok text else .error (.plain .invalidToken "token was invalid")) ∧
      (∀ n, lifetime = some n → n ≠ 0 → ¬InYears (w.now.val + 10 * 1000000) →
        ((resolve store timeout).runOn w).1 = .error (.foreign (.range .date))) ∧
      ∀ (w' : World) (n n' : Int) (c' : StoredCredential) (members' : Members),
        lifetime = some n → n ≠ 0 → n ≤ n' → w'.now = w.now → Typed members' →
        Offered store timeout w' text (some n') c' members' →
        ((resolve store timeout).runOn w).1 = .ok text →
          ((resolve store timeout).runOn w').1 = .ok text) := by
  refine ⟨resolve_of_not_typed h, fun htyped => ⟨resolve_of_unstated h htyped, ?_, ?_, ?_⟩⟩
  · rintro n rfl hn hyears
    rw [resolve_of_stated h htyped hn, if_pos hyears]
    by_cases hlong : 10 < n
    · rw [decide_eq_true hlong, if_pos hlong]
      rfl
    · rw [decide_eq_false hlong, if_neg hlong]
      rfl
  · rintro n rfl hn hyears
    rw [resolve_of_stated h htyped hn, if_neg hyears]
    rfl
  · rintro w' n n' c' members' rfl hn hle hnow htyped' h' haccepted
    rw [resolve_of_stated h htyped hn, verdict_eq_ok_iff] at haccepted
    by_cases hyears : InYears (w.now.val + 10 * 1000000)
    · rw [if_pos hyears, Except.ok.injEq, decide_eq_true_iff] at haccepted
      have hlong : 10 < n' := by omega
      rw [resolve_of_stated h' htyped' (by omega), verdict_eq_ok_iff, hnow, if_pos hyears,
        decide_eq_true hlong]
    · rw [if_neg hyears] at haccepted
      cases haccepted

def lifetimeWorld (seconds : String) : World :=
  answeredWorld 200 ("\x7b\"access_token\": \"t\", \"expires_in\": " ++ seconds ++ "\x7d")

def grants (text : Text) (n : Int) : Except Failure Json → Bool
  | .ok (.object members) =>
    match Members.get? (Text.ofString "access_token") members,
        Members.get? (Text.ofString "expires_in") members,
        Members.get? (Text.ofString "token_type") members with
    | some (.string t), some (.int m), none => t == text && m == n
    | _, _, _ => false
  | _ => false

theorem offered_lifetimeWorld (seconds : String) (n : Int)
    (hgrants : grants "t" n ((answer 30 lapsed).runOn (lifetimeWorld seconds)).1 = true)
    (hdated : (World.bare.now.addSeconds? n).isSome = true) :
    ∃ members, Offered ⟨"creds.json"⟩ 30 (lifetimeWorld seconds) "t" (some n) lapsed members ∧
      Typed members := by
  rw [grants.eq_def] at hgrants
  split at hgrants
  · next members hanswer =>
    split at hgrants
    · next t m htoken hstates htype =>
      rw [Bool.and_eq_true, beq_iff_eq, beq_iff_eq] at hgrants
      obtain ⟨rfl, rfl⟩ := hgrants
      refine ⟨members, ⟨load_answeredWorld 200 _, ⟨rfl, by decide⟩, answer_eq_ok_iff.1 hanswer,
        htoken, by decide, hstates, ?_⟩, ⟨_, by rw [htype]; rfl⟩⟩
      rintro k ⟨⟩
      exact Option.isSome_iff_exists.1 hdated
    · cases hgrants
  · cases hgrants

theorem accepts_by_lifetime_eleven :
    ∃ members, Offered ⟨"creds.json"⟩ 30 (lifetimeWorld "11") "t" (some 11) lapsed members ∧
      ((resolve ⟨"creds.json"⟩ 30).runOn (lifetimeWorld "11")).1 = .ok "t" := by
  obtain ⟨members, hoffered, htyped⟩ := offered_lifetimeWorld "11" 11
    (by decide +kernel) (by decide)
  have hyears : InYears ((lifetimeWorld "11").now.val + 10 * 1000000) := by decide
  exact ⟨members, hoffered,
    ((accepts_by_lifetime hoffered).2 htyped).2.1 11 rfl (by decide) hyears⟩

/-- A token for no time at all is taken, and one for ten seconds is not. -/
theorem resolve_zero_lifetime :
    ((resolve ⟨"creds.json"⟩ 30).runOn (lifetimeWorld "0")).1 = .ok "t" ∧
      ((resolve ⟨"creds.json"⟩ 30).runOn (lifetimeWorld "10")).1 =
        .error (.plain .invalidToken "token was invalid") := by
  obtain ⟨_, hzero, hzero'⟩ := offered_lifetimeWorld "0" 0
    (by decide +kernel) (by decide)
  obtain ⟨_, hten, hten'⟩ := offered_lifetimeWorld "10" 10
    (by decide +kernel) (by decide)
  have hyears : InYears ((lifetimeWorld "10").now.val + 10 * 1000000) := by decide
  refine ⟨resolve_of_unstated hzero hzero' (.inr rfl), ?_⟩
  rw [resolve_of_stated hten hten' (by decide), if_pos hyears]
  rfl

end StoreSource

end CredentialHelper
