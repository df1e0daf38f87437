import CredentialHelper.Helper
import CredentialHelper.Proofs.Effects
import CredentialHelper.Proofs.Resolution

/-!
# What trying the token sources does to the world

Each of the three sources, and with them a whole resolution, only advances the world: the clock, the
environment, the files and the answers of the login stay as they are.
-/

namespace CredentialHelper

open CredentialHelper.Action World

/-! ## The sources -/

theorem runOn_defaultDetector (scopes : List Text) (selfSigned : Bool) (w : World) :
    (defaultDetector scopes selfSigned).runOn w =
      (w.detections.head.map fun d : Detected => Action.ofExcept (d.token.map some),
        ((World.detect scopes).runOn w).2) := by
  rw [defaultDetector, runOn_bind, World.detect, runOn_ofFunction]
  cases w.detections.head <;> rfl

theorem AmbientSource.runOn_resolve (scopes : List Text) (w : World) :
    (AmbientSource.resolve defaultDetector scopes).runOn w =
      ((match w.detections.head with
        | .error f => .error (detectionFailure f)
        | .ok d =>
          match d.token with
          | .error f => .error (fetchFailure f)
          | .ok token => accept (some token) w.now),
        ((World.detect scopes).runOn w).2) := by
  rw [AmbientSource.resolve, runOn_bind, runOn_attempt, runOn_defaultDetector]
  cases w.detections.head with
  | error f => rfl
  | ok d =>
    simp only [Except.map, runOn_bind, runOn_attempt, runOn_ofExcept]
    cases d.token <;> rfl

theorem AmbientSource.within_resolve (scopes : List Text) :
    Within Advances (AmbientSource.resolve defaultDetector scopes) := by
  intro w
  rw [AmbientSource.runOn_resolve]
  exact within_detect scopes w

theorem Command.within_run (c : Command) (arguments : List Text) :
    Within Advances (c.run arguments) :=
  (within_log _ _ _).bind fun _ => (within_start _ _).bind fun _ => within_ofExcept _

theorem GcloudSource.within_resolve (c : Command) : Within Advances (GcloudSource.resolve c) := by
  refine (c.within_run _).attempt.bind fun r => ?_
  cases r with
  | error f => exact within_fail _
  | ok stdout => exact within_ofExcept _

theorem CredentialStore.within_load (s : CredentialStore) : Within Advances s.load := by
  refine (within_log _ _ _).bind fun _ w => ?_
  exact Advances.refl w

theorem Refresh.isLogin_of_request {timeout : Int} {c : StoredCredential} {url : Url}
    {event : Event}
    (h : Refresh.request timeout c = .ok (url, event)) : event.isLogin = false := by
  rw [Refresh.request] at h
  cases hurl : Refresh.endpoint c with
  | error e =>
    rw [hurl] at h
    cases h
  | ok url' =>
    cases hform : (Form.encode (Refresh.fields c)).mapError Cause.encoding with
    | error e =>
      rw [hurl, hform] at h
      cases h
    | ok form =>
      rw [hurl, hform] at h
      cases h
      rfl

theorem Refresh.within_answer (timeout : Int) (c : StoredCredential) :
    Within Advances (Refresh.answer timeout c) := by
  rw [Refresh.answer]
  split
  · exact within_fail _
  · next url event hrequest =>
    have hevent : event.isLogin = false := isLogin_of_request hrequest
    refine (within_send hevent).attempt.bind fun r => ?_
    split
    · exact within_fail _
    · exact within_fail _
    · split
      · exact within_fail _
      · split
        · split
          · exact within_pure _
          · exact within_fail _
        · refine (within_log _ _ _).bind fun _ => ?_
          dsimp only
          split
          · exact within_fail _
          · exact within_fail _

theorem Refresh.within_currentToken (timeout : Int) (c : StoredCredential) :
    Within Advances (Refresh.currentToken timeout c) := by
  refine within_get.bind fun w => ?_
  dsimp only
  split
  · exact within_fail _
  · exact (within_log _ _ _).bind fun _ => within_pure _
  · split
    · exact within_fail _
    · refine (within_log _ _ _).bind fun _ => (within_answer timeout c).bind fun answer => ?_
      refine (within_ofExcept _).bind fun granted => (within_ofExcept _).bind fun expiry => ?_
      exact (within_log _ _ _).bind fun _ => within_ofExcept _

theorem StoreSource.within_resolve (store : CredentialStore) (timeout : Int) :
    Within Advances (StoreSource.resolve store timeout) := by
  refine store.within_load.bind fun c => ?_
  refine (Refresh.within_currentToken timeout c).bind fun token => ?_
  refine within_get.bind fun w => ?_
  split
  · exact within_fail _
  · exact within_pure _
  · exact within_fail _

/-! ## A whole resolution -/

theorem Settings.within_adapters (s : Settings) (store : CredentialStore) {kind : SourceKind}
    {adapter : Action World (Option Text)} (h : s.adapters store kind = some adapter) :
    Within Advances adapter := by
  cases kind with
  | env =>
    cases h
    exact (AmbientSource.within_resolve _).map _
  | gcloud =>
    cases h
    exact (GcloudSource.within_resolve _).map _
  | store =>
    cases h
    exact (StoreSource.within_resolve _ _).map _

namespace Resolver

variable {adapters : Adapters World}

theorem within_resolveFrom
    (h : ∀ kind adapter, adapters kind = some adapter → Within Advances adapter)
    (last : Option HelperError) (identifiers : List Text) :
    Within Advances (resolveFrom adapters last identifiers) := by
  induction identifiers generalizing last with
  | nil =>
    cases last with
    | none => exact within_pure _
    | some e => exact within_fail _
  | cons identifier rest ih =>
    rw [resolveFrom]
    intro w
    rw [runOn_bind, runOn_ofExcept]
    cases hadapter : adapterFor adapters identifier with
    | error e => exact Advances.refl w
    | ok adapter =>
      have hwithin : Within Advances adapter := by
        rw [adapterFor] at hadapter
        split at hadapter
        · cases hadapter
        · split at hadapter
          · next hkind =>
            cases hadapter
            exact h _ _ hkind
          · cases hadapter
      refine ((within_log _ _ _).bind fun _ => hwithin.attempt.bind fun r => ?_) w
      split
      · exact (within_log _ _ _).bind fun _ => within_pure _
      · split
        · exact (within_log _ _ _).bind fun _ => ih _
        · exact within_fail _
      · exact within_fail _

theorem Passes.advances (h : ∀ kind adapter, adapters kind = some adapter → Within Advances adapter)
    {identifiers : List Text} {w t : World} {es : List HelperError}
    (passed : Passes adapters identifiers w es t) : w.Advances t := by
  induction passed with
  | nil w => exact Advances.refl w
  | @cons identifier rest w t u e es kind head tail ih =>
    obtain ⟨-, -, adapter, v, hadapter, hrun, rfl⟩ := position_eq_passes_iff.1 head
    have hv := h kind adapter hadapter (Journaled.note (triedLine identifier) w)
    rw [hrun] at hv
    exact (advances_note w rfl).trans (hv.trans ((advances_note v rfl).trans ih))

end Resolver

end CredentialHelper
