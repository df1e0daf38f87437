import CredentialHelper.Proofs.RefusalBodies
import CredentialHelper.Proofs.Sources

/-!
# Failures of the authentication library

The ambient source asks the library twice: to detect a credential and to fetch its token.  `Outcome`
says what becomes of each failure of the library, which is an error of the source with that failure
as its cause in all cases but two: a detection that fails in another way than by finding nothing,
and a refused refresh with a document that is nested too deeply.
-/

namespace CredentialHelper

/-! ## The first object among the arguments of a failure -/

namespace Refusal

/-- The first argument that is an object, unless a document in front of it is nested too deeply. -/
inductive FirstObject : List Argument → Except Cause (Option Members) → Prop
  | absent {arguments : List Argument} (h : ∀ a ∈ arguments, decode a = .ok none) :
    FirstObject arguments (.ok none)
  | found {before after : List Argument} {body : Argument} {members : Members}
      (hbefore : ∀ a ∈ before, decode a = .ok none) (h : decode body = .ok (some members)) :
    FirstObject (before ++ body :: after) (.ok (some members))
  | nested {before after : List Argument} {body : Argument} {isArray : Bool}
      (hbefore : ∀ a ∈ before, decode a = .ok none) (h : TooDeep body isArray) :
    FirstObject (before ++ body :: after) (.error (.document (.tooDeep isArray)))

theorem FirstObject.cons {a : Argument} {rest : List Argument}
    {r : Except Cause (Option Members)} (ha : decode a = .ok none) (h : FirstObject rest r) :
    FirstObject (a :: rest) r := by
  have hcons {before : List Argument} (hbefore : ∀ b ∈ before, decode b = .ok none) :
      ∀ b ∈ a :: before, decode b = .ok none := by
    intro b hb
    rcases List.mem_cons.1 hb with rfl | hb
    · exact ha
    · exact hbefore b hb
  cases h with
  | absent h => exact .absent (hcons h)
  | found hbefore h => exact .found (hcons hbefore) h
  | nested hbefore h => exact .nested (hcons hbefore) h

end Refusal

namespace AmbientSource

open Refusal

theorem firstBody_cons_none {a : Argument} (h : decode a = .ok none) (rest : List Argument) :
    firstBody (a :: rest) = firstBody rest := by
  rw [firstBody, h]
  rfl

theorem firstBody_cons_some {a : Argument} {members : Members} (h : decode a = .ok (some members))
    (rest : List Argument) : firstBody (a :: rest) = .ok a := by
  rw [firstBody, h]
  rfl

theorem firstBody_cons_error {a : Argument} {c : Cause} (h : decode a = .error c)
    (rest : List Argument) : firstBody (a :: rest) = .error c := by
  rw [firstBody, h]
  rfl

theorem firstObject (arguments : List Argument) :
    FirstObject arguments (firstBody arguments >>= decode) := by
  induction arguments with
  | nil => exact .absent fun a ha => absurd ha List.not_mem_nil
  | cons a rest ih =>
    cases h : decode a with
    | error c =>
      obtain ⟨isArray, rfl, hdeep⟩ := decode_eq_error_iff.1 h
      rw [firstBody_cons_error h]
      exact @FirstObject.nested [] rest a isArray (by simp) hdeep
    | ok decoded =>
      cases decoded with
      | none =>
        rw [firstBody_cons_none h]
        exact ih.cons h
      | some members =>
        rw [firstBody_cons_some h, show (Except.ok a >>= decode) = decode a from rfl, h]
        exact @FirstObject.found [] rest a members (by simp) h

theorem firstBody_append {before : List Argument} (hbefore : ∀ a ∈ before, decode a = .ok none)
    (after : List Argument) : firstBody (before ++ after) = firstBody after := by
  induction before with
  | nil => rfl
  | cons a before ih =>
    rw [List.cons_append, firstBody_cons_none (hbefore a (List.mem_cons_self ..))]
    exact ih fun b hb => hbefore b (List.mem_cons_of_mem _ hb)

theorem exists_of_firstObject_error {arguments : List Argument} {c : Cause}
    (h : FirstObject arguments (.error c)) : ∃ isArray, c = .document (.tooDeep isArray) := by
  cases h with
  | nested hbefore h => exact ⟨_, rfl⟩

theorem bind_firstBody {arguments : List Argument} {r : Except Cause (Option Members)}
    (h : FirstObject arguments r) : (firstBody arguments >>= decode) = r := by
  cases h with
  | @absent arguments h =>
    rw [← List.append_nil arguments, firstBody_append h]
    rfl
  | found hbefore h =>
    rw [firstBody_append hbefore, firstBody_cons_some h]
    exact h
  | nested hbefore h =>
    rw [firstBody_append hbefore, firstBody_cons_error (decode_eq_error_iff.2 ⟨_, rfl, h⟩)]
    rfl

theorem revokedBody_iff {arguments : List Argument} :
    RevokedBody arguments ↔
      ∃ members, FirstObject arguments (.ok (some members)) ∧ HasRevokedPair members := by
  constructor
  · rintro ⟨before, body, after, members, rfl, hbefore, h, hpair⟩
    exact ⟨members, .found hbefore h, hpair⟩
  · rintro ⟨members, h, hpair⟩
    generalize hr : (Except.ok (some members) : Except Cause (Option Members)) = r at h
    cases h with
    | absent h => cases hr
    | found hbefore h =>
      cases hr
      exact ⟨_, _, _, _, rfl, hbefore, h, hpair⟩
    | nested hbefore h => cases hr

/-! ## What becomes of a failure -/

inductive Stage where
  | detection
  | fetch

/-- A refused refresh whose first object is behind a document that is nested too deeply. -/
structure Nested (e : CollaboratorError) (isArray : Bool) : Prop where
  isRefresh : e.isRefresh = true
  silent : e.held.any asksForLogin = false
  nested : FirstObject e.held (.error (.document (.tooDeep isArray)))

structure Revokes (e : CollaboratorError) : Prop where
  isRefresh : e.isRefresh = true
  asks : (∃ t, .data (.string t) ∈ e.held ∧ reauthNeeded <+: t) ∨ RevokedBody e.held

inductive Outcome (e : CollaboratorError) : Stage → Failure → Prop
  | undetected (h : e.isDetection = true) :
    Outcome e .detection (.helper (.root
      ⟨.invalidCredentials, "failed to detect default credentials", [], []⟩
      (some (.collaborator e))))
  /-- Only the failures to find a credential are expected of a detection. -/
  | unexpected (h : e.isDetection = false) : Outcome e .detection (.foreign (.collaborator e))
  | revoked (h : Revokes e) :
    Outcome e .fetch (.helper (Refusal.revoked fetchFailed (.foreign (.collaborator e))))
  | unavailable {context : Members} (h : ¬Revokes e) (hread : ∀ isArray, ¬Nested e isArray) :
    Outcome e .fetch (.helper (.root ⟨.service, fetchFailed, [], context⟩
      (some (.collaborator e))))
  | nested {isArray : Bool} (h : Nested e isArray) :
    Outcome e .fetch (.foreign (.document (.tooDeep isArray)))

theorem outcome_detectionFailure (e : CollaboratorError) :
    Outcome e .detection (detectionFailure (.foreign (.collaborator e))) := by
  rw [detectionFailure]
  by_cases h : e.isDetection = true
  · rw [if_pos h]
    exact .undetected h
  · rw [if_neg h]
    exact .unexpected (Bool.eq_false_iff.2 h)

theorem outcome_refreshFailure {e : CollaboratorError} (hrefresh : e.isRefresh = true) :
    Outcome e .fetch (refreshFailure e) := by
  rw [refreshFailure]
  by_cases hasks : e.held.any asksForLogin = true
  · rw [if_pos hasks]
    exact .revoked ⟨hrefresh, .inl (asksForLogin_iff.1 hasks)⟩
  · have hsilent : e.held.any asksForLogin = false := Bool.eq_false_iff.2 hasks
    have hfirst := firstObject e.held
    have hclassify : (firstBody e.held >>= fun body =>
        classify fetchFailed body (.foreign (.collaborator e)) .service) =
        (firstBody e.held >>= decode).map
          (verdict fetchFailed (.foreign (.collaborator e)) .service) := by
      cases firstBody e.held with
      | error c => rfl
      | ok body => exact classify_eq_map _ _ _ _
    rw [if_neg hasks, hclassify]
    -- without a request for a login, the first object decides
    cases hr : firstBody e.held >>= decode with
    | error c =>
      rw [hr] at hfirst
      obtain ⟨isArray, rfl⟩ := exists_of_firstObject_error hfirst
      exact .nested ⟨hrefresh, hsilent, hfirst⟩
    | ok decoded =>
      have hread (isArray : Bool) : ¬Nested e isArray := by
        intro hnested
        cases hr.symm.trans (bind_firstBody hnested.nested)
      have hobject (h : Revokes e) :
          ∃ members, decoded = some members ∧ HasRevokedPair members := by
        obtain ⟨members, hmembers, hpair⟩ := revokedBody_iff.1
          (h.asks.resolve_left fun hlogin => hasks (asksForLogin_iff.2 hlogin))
        cases hr.symm.trans (bind_firstBody hmembers)
        exact ⟨members, rfl, hpair⟩
      rw [hr] at hfirst
      cases decoded with
      | none =>
        refine .unavailable (fun h => ?_) hread
        obtain ⟨members, hmembers, -⟩ := hobject h
        cases hmembers
      | some members =>
        rw [Except.map]
        by_cases hpair : HasRevokedPair members
        · rw [verdict_of_pair hpair]
          exact .revoked ⟨hrefresh, .inr (revokedBody_iff.2 ⟨members, hfirst, hpair⟩)⟩
        · rw [verdict_of_not_pair hpair]
          refine .unavailable (fun h => ?_) hread
          obtain ⟨members', hmembers, hpair'⟩ := hobject h
          cases hmembers
          exact hpair hpair'

theorem outcome_fetchFailure {e : CollaboratorError} (h : e.isAuth = true) :
    Outcome e .fetch (fetchFailure (.foreign (.collaborator e))) := by
  rw [fetchFailure]
  by_cases hrefresh : e.isRefresh = true
  · rw [if_pos hrefresh]
    exact outcome_refreshFailure hrefresh
  · rw [if_neg hrefresh, if_pos h]
    exact .unavailable (fun hrevokes => hrefresh hrevokes.isRefresh)
      fun isArray hnested => hrefresh hnested.isRefresh

/-! ## What the source and the resolution make of it -/

section

variable {σ : Type}

inductive FailsWith (detector : Detector σ) (scopes : List Text) (s : σ) (e : CollaboratorError)
    (t : σ) : Stage → Prop
  | detection (h : (detector scopes true).runOn s = (.error (.foreign (.collaborator e)), t)) :
    FailsWith detector scopes s e t .detection
  | fetch {fetch : Action σ (Option Token)} {u : σ}
      (hdetected : (detector scopes true).runOn s = (.ok fetch, u))
      (h : fetch.runOn u = (.error (.foreign (.collaborator e)), t)) :
    FailsWith detector scopes s e t .fetch

variable [Clocked σ] {detector : Detector σ} {scopes : List Text} {s t : σ}
  {e : CollaboratorError} {stage : Stage}

theorem outcome_resolve (hauth : e.isAuth = true) (h : FailsWith detector scopes s e t stage) :
    ∃ f, (resolve detector scopes).runOn s = (.error f, t) ∧ Outcome e stage f := by
  cases h with
  | detection h =>
    refine ⟨_, ?_, outcome_detectionFailure e⟩
    rw [resolve, Action.runOn_bind, Action.runOn_attempt, h]
    rfl
  | fetch hdetected h =>
    refine ⟨_, ?_, outcome_fetchFailure hauth⟩
    rw [resolve, Action.runOn_bind, Action.runOn_attempt, hdetected]
    dsimp only
    rw [Action.runOn_bind, Action.runOn_attempt, h]
    rfl

/-- An error of the source has the failure of the library as its cause, and the source failed for
itself. -/
theorem Outcome.of_helper {error : HelperError} (h : Outcome e stage (.helper error)) :
    error.kind.isSourceFailure = true ∧
      ∃ entry, error = .root entry (some (.collaborator e)) := by
  generalize hf : Failure.helper error = f at h
  cases h <;> cases hf <;> exact ⟨rfl, _, rfl⟩

variable [Journaled σ]

/-- How a resolution goes on behind a source that failed: an error of the source is kept and the
rest is tried, any other failure is the result. -/
def goesOn (adapters : Resolver.Adapters σ) (identifier : Text) (rest : List Text) (f : Failure)
    (t : σ) : Except Failure (Option Text) × σ :=
  match f with
  | .helper error =>
    (Resolver.resolveFrom adapters (some error) rest).runOn
      (Journaled.note (Resolver.failedLine identifier error) t)
  | .foreign cause => (.error (.foreign cause), t)

theorem runOn_resolve_of_fails {adapters : Resolver.Adapters σ} {identifier : Text} {w : σ}
    {f : Failure} (hparse : SourceKind.parse identifier = .ok .env)
    (hadapter : adapters .env = some (some <$> resolve detector scopes))
    (hrun : (resolve detector scopes).runOn (Journaled.note (Resolver.triedLine identifier) w) =
      (.error f, t)) (hf : Outcome e stage f) {before : List Text} {first : σ}
    {es : List HelperError} (hpassed : Resolver.Passes adapters before first es w)
    (rest : List Text) :
    (Resolver.resolve adapters (before ++ identifier :: rest)).runOn first =
      goesOn adapters identifier rest f t := by
  have hposition := Resolver.position_of_adapter hparse hadapter w
  rw [Action.runOn_map, hrun] at hposition
  rw [Resolver.resolve, hpassed.runOn_resolveFrom_append, Resolver.runOn_resolveFrom_cons,
    hposition]
  cases f with
  | helper error =>
    simp only [Except.map, Resolver.Position.ofCall, hf.of_helper.1, if_true, goesOn]
  | foreign cause => rfl

/-- A failure of the library is an error of the source with that failure as its cause, and the next
source is tried, unless it is one of the two that end the resolution. -/
theorem reports_library_failures (hauth : e.isAuth = true) :
    (∀ {s t : σ} {stage : Stage}, FailsWith detector scopes s e t stage →
      ∃ f, (resolve detector scopes).runOn s = (.error f, t) ∧ Outcome e stage f ∧
        ∀ error, f = .helper error → error.kind.isSourceFailure = true ∧
          ∃ entry, error = .root entry (some (.collaborator e))) ∧
    ∀ {adapters : Resolver.Adapters σ} {identifier : Text} {w t : σ} {stage : Stage},
      SourceKind.parse identifier = .ok .env →
      adapters .env = some (some <$> resolve detector scopes) →
      FailsWith detector scopes (Journaled.note (Resolver.triedLine identifier) w) e t stage →
      ∃ f, Outcome e stage f ∧ ∀ {before : List Text} {first : σ} {es : List HelperError},
        Resolver.Passes adapters before first es w → ∀ rest,
          (Resolver.resolve adapters (before ++ identifier :: rest)).runOn first =
            goesOn adapters identifier rest f t := by
  constructor
  · intro s t stage h
    obtain ⟨f, hrun, hf⟩ := outcome_resolve hauth h
    exact ⟨f, hrun, hf, fun error herror => (herror ▸ hf).of_helper⟩
  · intro adapters identifier w t stage hparse hadapter h
    obtain ⟨f, hrun, hf⟩ := outcome_resolve hauth h
    exact ⟨f, hf, fun hpassed rest => runOn_resolve_of_fails hparse hadapter hrun hf hpassed rest⟩

end

def undetectingWorld (name : String) : World :=
  { World.bare with
    detections := ⟨[], .error (.foreign (.collaborator ⟨name, [.data (.string "down")]⟩))⟩ }

theorem failsWith_undetectingWorld (name : String) (s : World)
    (h : s.detections = (undetectingWorld name).detections) :
    FailsWith defaultDetector Default.scopes s ⟨name, [.data (.string "down")]⟩
      ((World.detect Default.scopes).runOn s).2 .detection := by
  refine .detection ?_
  rw [runOn_defaultDetector, h]
  rfl

/-- Without a credential to find, the next source is tried. -/
theorem reports_library_failures_undetecting :
    CollaboratorError.isAuth ⟨"MalformedError", [.data (.string "down")]⟩ = true ∧
      ∃ error t, error.kind = .invalidCredentials ∧
        (AmbientSource.resolve defaultDetector Default.scopes).runOn
          (undetectingWorld "MalformedError") = (.error (.helper error), t) := by
  have hauth : CollaboratorError.isAuth ⟨"MalformedError", [.data (.string "down")]⟩ = true := by
    decide
  have hfails := failsWith_undetectingWorld "MalformedError" (undetectingWorld "MalformedError") rfl
  obtain ⟨f, hrun, hf, -⟩ := (reports_library_failures hauth).1 hfails
  cases hf with
  | undetected h => exact ⟨hauth, _, _, rfl, hrun⟩
  | unexpected h => exact absurd h (by decide)

/-- A detection that cannot reach the network ends the resolution. -/
theorem resolve_undetectingWorld :
    ((Resolver.resolve (Settings.adapters {} ⟨"/store.json"⟩) ["env", "store"]).runOn
        (undetectingWorld "TransportError")).1 =
      .error (.foreign (.collaborator ⟨"TransportError", [.data (.string "down")]⟩)) := by
  rfl

end AmbientSource

end CredentialHelper
