import CredentialHelper.Proofs.LoginToken
import Mathlib.Data.List.DropRight

/-!
# The secrets that are handed out

A request ends with a secret only if a source gave it in the last pass, all sources in front of it
having failed for themselves.  Every source has a rule of its own for what it gives:
`Settings.Gives` lists them.  Under each of them the secret is not empty and, as far as its expiry
is known, lives for more than ten seconds.
-/

namespace CredentialHelper

open CredentialHelper.Action World

/-! ## Texts without blanks at their ends -/

namespace Blank

structure Trimmed (t : Text) : Prop where
  head : ∀ c ∈ t.head?, isBlankSymbol c = false
  last : ∀ c ∈ t.getLast?, isBlankSymbol c = false

theorem trimEnd_eq_rdropWhile (t : Text) : trimEnd t = t.rdropWhile isBlankSymbol := rfl

theorem head?_trimStart {t : Text} {c : Symbol} (h : c ∈ (trimStart t).head?) :
    isBlankSymbol c = false := by
  have hdropped := List.head?_dropWhile_not isBlankSymbol t
  rw [trimStart] at h
  rw [Option.mem_def.1 h] at hdropped
  exact hdropped

theorem trimmed_strip (t : Text) : Trimmed (strip t) := by
  constructor
  · intro c hc
    -- trimming at the end leaves a prefix, whose first symbol is the one of the whole
    have hprefix : strip t <+: trimStart t := by
      rw [strip, trimEnd_eq_rdropWhile]
      exact List.rdropWhile_prefix isBlankSymbol _
    obtain ⟨rest, hrest⟩ := hprefix
    refine head?_trimStart (t := t) ?_
    rw [← hrest, List.head?_append, Option.mem_def.1 hc]
    rfl
  · intro c hc
    rw [strip, trimEnd, List.getLast?_reverse] at hc
    exact head?_trimStart hc

end Blank

/-! ## Tokens that can be used -/

/-- The moment is more than ten seconds after an instant. -/
def Moment.Outlasts (e : Moment) (now : Instant) : Prop :=
  ∃ t, e.utc? = some t ∧ now.val + 10 * 1000000 < t.val

namespace Token

theorem outlasts_of_outlasts_eq_true {e : Moment} {now : Instant}
    (h : outlasts e now.toMoment = .ok true) : e.Outlasts now := by
  rw [outlasts_eq_true_iff, Instant.micros_toMoment] at h
  obtain ⟨hpos, hlt, hlater⟩ := h
  obtain ⟨t, ht, hval⟩ := exists_wallTime? (show InYears e.micros from ⟨by omega, hlt⟩)
  exact ⟨t, e.utc?_eq.trans ht, by omega⟩

variable {t : Token} {now : Instant}

theorem isValid_eq_true (h : t.isValid now.toMoment = .ok true) :
    t.value ≠ [] ∧ ∃ e, t.expiry = some e ∧ e.Outlasts now := by
  obtain ⟨hvalue, e, hexpiry, houtlasts⟩ := isValid_eq_true_iff.1 h
  exact ⟨hvalue, e, hexpiry, outlasts_of_outlasts_eq_true (outlasts_eq_true_iff.2 houtlasts)⟩

theorem isLive_eq_true (h : t.isLive now.toMoment = .ok true) :
    t.value ≠ [] ∧ ∀ e ∈ t.expiry, e.Outlasts now := by
  rcases isLive_eq_true_iff.1 h with hvalid | ⟨hvalue, hnone⟩
  · obtain ⟨hvalue, e, hexpiry, houtlasts⟩ := isValid_eq_true hvalid
    refine ⟨hvalue, fun e' he' => ?_⟩
    rw [hexpiry] at he'
    cases he'
    exact houtlasts
  · exact ⟨hvalue, by simp [hnone]⟩

end Token

/-! ## What each source gives -/

theorem AmbientSource.accept_eq_ok {token : Option Token} {now : Instant} {secret : Text}
    (h : accept token now = .ok secret) :
    ∃ t, token = some t ∧ t.type = Default.bearer ∧ t.value = secret ∧ secret ≠ [] ∧
      ∃ e, t.expiry = some e ∧ e.Outlasts now := by
  unfold accept at h
  dsimp only at h
  split at h
  · cases h
  · next t =>
    split at h
    · cases h
    · cases h
    · next hvalid =>
      split at h
      · next htype =>
        cases h
        obtain ⟨hvalue, hexpiry⟩ := Token.isValid_eq_true hvalid
        exact ⟨t, rfl, htype, rfl, hvalue, hexpiry⟩
      · cases h

theorem AmbientSource.resolve_eq_ok {detector : Detector World} {scopes : List Text} {v x : World}
    {secret : Text} (h : (resolve detector scopes).runOn v = (.ok secret, x)) :
    ∃ fetch u token, (detector scopes true).runOn v = (.ok fetch, u) ∧
      fetch.runOn u = (.ok token, x) ∧ accept token x.now = .ok secret := by
  rw [resolve] at h
  obtain ⟨detected, u, hdetected, h⟩ := exists_of_bind_eq_ok h
  rw [runOn_attempt] at hdetected
  cases hdetected
  split at h
  · cases h
  · next fetch hfetch =>
    obtain ⟨fetched, y, hfetched, h⟩ := exists_of_bind_eq_ok h
    rw [runOn_attempt] at hfetched
    cases hfetched
    split at h
    · cases h
    · next token htoken =>
      rw [runOn_bind, runOn_get] at h
      dsimp only at h
      rw [runOn_ofExcept] at h
      obtain ⟨haccept, rfl⟩ := Prod.mk.inj h
      exact ⟨fetch, _, token, Prod.ext hfetch rfl, Prod.ext htoken rfl, haccept⟩

theorem GcloudSource.resolve_eq_ok {c : Command} {v x : World} {secret : Text}
    (h : (resolve c).runOn v = (.ok secret, x)) :
    ∃ stdout, (c.run Default.gcloudArguments).runOn v = (.ok stdout, x) ∧
      secret = Blank.strip (Utf8.decodeLenient stdout) ∧ secret ≠ [] := by
  rw [resolve] at h
  obtain ⟨ran, u, hran, h⟩ := exists_of_bind_eq_ok h
  rw [runOn_attempt] at hran
  cases hran
  split at h
  · cases h
  · next stdout hstdout =>
    rw [runOn_ofExcept, tokenOf] at h
    split at h
    · cases h
    · next hnonempty =>
      cases h
      exact ⟨stdout, Prod.ext hstdout rfl, rfl, fun hnil => hnonempty (List.isEmpty_iff.2 hnil)⟩

theorem StoreSource.resolve_eq_ok {store : CredentialStore} {timeout : Int} {v x : World}
    {secret : Text} (h : (resolve store timeout).runOn v = (.ok secret, x)) :
    ∃ c u token, store.load.runOn v = (.ok c, u) ∧
      (Refresh.currentToken timeout c).runOn u = (.ok token, x) ∧ token.value = secret ∧
      secret ≠ [] ∧ ∀ e ∈ token.expiry, e.Outlasts x.now := by
  rw [resolve] at h
  obtain ⟨c, u, hload, h⟩ := exists_of_bind_eq_ok h
  obtain ⟨token, y, htoken, h⟩ := exists_of_bind_eq_ok h
  rw [runOn_bind, runOn_get] at h
  dsimp only at h
  split at h
  · cases h
  · next hlive =>
    cases h
    obtain ⟨hvalue, hexpiry⟩ := Token.isLive_eq_true hlive
    exact ⟨c, u, token, hload, htoken, rfl, hvalue, hexpiry⟩
  · cases h

namespace Settings

def adaptersWith (s : Settings) (detector : Detector World) (store : CredentialStore) :
    Resolver.Adapters World
  | .env => some (some <$> AmbientSource.resolve detector Default.scopes)
  | .gcloud => s.adapters store .gcloud
  | .store => s.adapters store .store

theorem adaptersWith_defaultDetector (s : Settings) (store : CredentialStore) :
    s.adaptersWith defaultDetector store = s.adapters store := by
  funext kind
  cases kind <;> rfl

/-- A source called in the world `v` gives a secret that can be used in the world `x` that it
leaves. -/
inductive Gives (s : Settings) (detector : Detector World) (store : CredentialStore) :
    SourceKind → World → Text → World → Prop
  /-- The ambient token is a bearer token that is known to live. -/
  | env {v u x : World} {fetch : Action World (Option Token)} {token : Token} {e : Moment}
      (detected : (detector Default.scopes true).runOn v = (.ok fetch, u))
      (fetched : fetch.runOn u = (.ok (some token), x)) (type : token.type = Default.bearer)
      (expiry : token.expiry = some e) (outlasts : e.Outlasts x.now) :
      Gives s detector store .env v token.value x
  /-- What the program printed has no blanks around it any more. -/
  | gcloud {v x : World} {stdout : Bytes}
      (ran : (s.gcloud.run Default.gcloudArguments).runOn v = (.ok stdout, x))
      (trimmed : Blank.Trimmed (Blank.strip (Utf8.decodeLenient stdout))) :
      Gives s detector store .gcloud v (Blank.strip (Utf8.decodeLenient stdout)) x
  /-- The stored or refreshed token is not known to end. -/
  | store {v u x : World} {c : StoredCredential} {token : Token}
      (loaded : store.load.runOn v = (.ok c, u))
      (current : (Refresh.currentToken s.httpTimeout c).runOn u = (.ok token, x))
      (outlasts : ∀ e ∈ token.expiry, e.Outlasts x.now) :
      Gives s detector store .store v token.value x

variable {s : Settings} {detector : Detector World} {store : CredentialStore}

theorem gives_of_adapter {kind : SourceKind} {adapter : Action World (Option Text)} {v x : World}
    {result : Option Text} (ha : s.adaptersWith detector store kind = some adapter)
    (h : adapter.runOn v = (.ok result, x)) :
    ∃ secret, result = some secret ∧ secret ≠ [] ∧ s.Gives detector store kind v secret x := by
  cases kind with
  | env =>
    cases ha
    obtain ⟨secret, hrun, rfl⟩ := exists_of_map_eq_ok h
    obtain ⟨fetch, u, token, hdetected, hfetched, haccept⟩ := AmbientSource.resolve_eq_ok hrun
    obtain ⟨t, rfl, htype, rfl, hvalue, e, hexpiry, he⟩ := AmbientSource.accept_eq_ok haccept
    exact ⟨_, rfl, hvalue, .env hdetected hfetched htype hexpiry he⟩
  | gcloud =>
    cases ha
    obtain ⟨secret, hrun, rfl⟩ := exists_of_map_eq_ok h
    obtain ⟨stdout, hran, rfl, hvalue⟩ := GcloudSource.resolve_eq_ok hrun
    exact ⟨_, rfl, hvalue, .gcloud hran (Blank.trimmed_strip _)⟩
  | store =>
    cases ha
    obtain ⟨secret, hrun, rfl⟩ := exists_of_map_eq_ok h
    obtain ⟨c, u, token, hload, htoken, rfl, hvalue, hexpiry⟩ := StoreSource.resolve_eq_ok hrun
    exact ⟨_, rfl, hvalue, .store hload htoken hexpiry⟩

end Settings

/-! ## Passes that succeed -/

theorem Resolver.position_eq_stops_ok {σ : Type} [Journaled σ] {adapters : Adapters σ}
    {identifier : Text} {s t : σ} {result : Option Text} {called : Option SourceKind}
    (h : position adapters identifier s = .stops (.ok result) t called) :
    ∃ kind adapter x, SourceKind.parse identifier = .ok kind ∧ adapters kind = some adapter ∧
      adapter.runOn (Journaled.note (triedLine identifier) s) = (.ok result, x) ∧
      t = Journaled.note (obtainedLine identifier) x := by
  cases called with
  | none =>
    obtain ⟨-, e, hresult, -⟩ := result_of_position_eq_stops_none h
    cases hresult
  | some kind =>
    have hparse := parse_of_position_eq_stops h
    cases ha : adapters kind with
    | none =>
      rw [position_of_absent hparse ha] at h
      cases h
    | some adapter =>
      rw [position_of_adapter hparse ha] at h
      rcases hrun : adapter.runOn (Journaled.note (triedLine identifier) s)
        with ⟨(e | cause) | token, x⟩
      · rw [hrun, Position.ofCall] at h
        split at h
        · cases h
        · cases h
      · rw [hrun] at h
        cases h
      · rw [hrun] at h
        cases h
        exact ⟨kind, adapter, x, hparse, ha, hrun, rfl⟩

/-- A pass that succeeds had no sources, or one of them gave the result after those in front of it
failed for themselves. -/
theorem Resolver.resolve_eq_ok {σ : Type} [Journaled σ] {adapters : Adapters σ}
    {identifiers : List Text} {s t : σ} {result : Option Text}
    (h : (resolve adapters identifiers).runOn s = (.ok result, t)) :
    result = none ∧ identifiers = [] ∨
      ∃ before identifier after es u kind adapter x,
        identifiers = before ++ identifier :: after ∧ Passes adapters before s es u ∧
        SourceKind.parse identifier = .ok kind ∧ adapters kind = some adapter ∧
        adapter.runOn (Journaled.note (triedLine identifier) u) = (.ok result, x) ∧
        t = Journaled.note (obtainedLine identifier) x := by
  obtain ⟨r, hr⟩ := exists_scans adapters identifiers s
  rw [hr.runOn_resolve] at h
  cases hr with
  | empty s =>
    cases h
    exact .inl ⟨rfl, rfl⟩
  | @stopped before after identifier _ u _ es _ called passed stop =>
    cases h
    obtain ⟨kind, adapter, x, hparse, ha, hrun, rfl⟩ := position_eq_stops_ok stop
    exact .inr ⟨before, identifier, after, es, u, kind, adapter, x, rfl, passed, hparse, ha, hrun,
      rfl⟩
  | exhausted passed => cases h

/-- The last pass of a resolution begins in `v`: either it is the only one, or it follows a login
that a revoked grant made necessary. -/
inductive Coordinator.LastPass {σ : Type} [Journaled σ] (c : Coordinator σ)
    (identifiers : List Text) (s : σ) : σ → Prop
  | only (h : revokes ((Resolver.resolve c.adapters identifiers).runOn s).1 = false) :
      LastPass c identifiers s s
  | afterLogin {error subtype : Text} {v : σ}
      (h : revokes ((Resolver.resolve c.adapters identifiers).runOn s).1 = true)
      (login : c.reauthenticate.runOn (Journaled.note (revokedLine error subtype)
        ((Resolver.resolve c.adapters identifiers).runOn s).2) = (.ok (), v)) :
      LastPass c identifiers s v

theorem Coordinator.resolve_eq_ok {σ : Type} [Journaled σ] {c : Coordinator σ}
    {identifiers : List Text} {s t : σ} {result : Option Text}
    (h : (c.resolve identifiers).runOn s = (.ok result, t)) :
    ∃ v, c.LastPass identifiers s v ∧
      (Resolver.resolve c.adapters identifiers).runOn v = (.ok result, t) := by
  by_cases hrevoked : revokes ((Resolver.resolve c.adapters identifiers).runOn s).1 = true
  · obtain ⟨error, subtype, hrun⟩ := exists_runOn_resolve_of_revokes hrevoked
    rw [hrun] at h
    obtain ⟨_, v, hlogin, hpass⟩ := exists_of_bind_eq_ok h
    exact ⟨v, .afterLogin hrevoked hlogin, hpass⟩
  · refine ⟨s, .only ((Bool.not_eq_true _).mp hrevoked), ?_⟩
    rw [runOn_resolve] at h
    rcases hrun : (Resolver.resolve c.adapters identifiers).runOn s with ⟨(e | cause) | token, u⟩
    · rw [hrun] at h hrevoked
      dsimp only at h
      split at h
      · next hkind =>
        rw [revokes_helper, hkind] at hrevoked
        exact absurd rfl hrevoked
      · cases h
    · rw [hrun] at h
      cases h
    · rw [hrun] at h
      exact h

/-! ## One request -/

namespace Helper

/-- The helper for settings and a store, with any detector, login and way to save a credential. -/
def wired (s : Settings) (detector : Detector World) (store : CredentialStore)
    (login : Action World StoredCredential) (save : StoredCredential → Action World Unit) :
    Helper :=
  ⟨⟨s.adaptersWith detector store, login, save⟩, s.tokenSources, Identity.userName⟩

theorem wired_ofSettings (s : Settings) (store : CredentialStore) :
    wired s defaultDetector store s.loginClient.logIn store.save = ofSettings s store := by
  rw [wired, Settings.adaptersWith_defaultDetector]
  rfl

variable {s : Settings} {detector : Detector World} {store : CredentialStore}
  {login : Action World StoredCredential} {save : StoredCredential → Action World Unit}

/-- Every secret that a request gives comes from the first source that did not fail in the last
pass, and it can be used. -/
theorem get_usable {registry : Text} {w t : World} {c : RegistryCredential}
    (h : ((wired s detector store login save).get registry).runOn w = (.ok c, t)) :
    c.userName = Identity.userName ∧ c.secret ≠ [] ∧
      ∃ v, (wired s detector store login save).coordinator.LastPass s.tokenSources
          (Journaled.note (requestedLine registry) w) v ∧
        ∃ before identifier after es u kind x, s.tokenSources = before ++ identifier :: after ∧
          Resolver.Passes (s.adaptersWith detector store) before v es u ∧
          SourceKind.parse identifier = .ok kind ∧
          s.Gives detector store kind (Journaled.note (Resolver.triedLine identifier) u)
            c.secret x ∧
          t = Journaled.note (Resolver.obtainedLine identifier) x := by
  rw [get] at h
  obtain ⟨_, w', hlog, h⟩ := exists_of_bind_eq_ok h
  cases hlog
  obtain ⟨result, t', hresolve, h⟩ := exists_of_bind_eq_ok h
  cases result with
  | none => cases h
  | some secret =>
    cases h
    obtain ⟨v, hlast, hpass⟩ := Coordinator.resolve_eq_ok hresolve
    obtain ⟨hnone, -⟩ | ⟨before, identifier, after, es, u, kind, adapter, x, hids, passed, hparse,
      ha, hrun, rfl⟩ := Resolver.resolve_eq_ok hpass
    · cases hnone
    · obtain ⟨secret', hsecret, hne, hgives⟩ := Settings.gives_of_adapter ha hrun
      cases hsecret
      exact ⟨rfl, hne, v, hlast, before, identifier, after, es, u, kind, x, hids, passed, hparse,
        hgives, rfl⟩

/-- What a program prints that puts its token on a line of its own. -/
def printed : Bytes := [0x20, 0x79, 0x61, 0x32, 0x39, 0x0a]

theorem tokenOf_printed : GcloudSource.tokenOf printed = .ok "ya29" := by
  have hstrip : Blank.strip (Utf8.decodeLenient printed) = "ya29" := by decide +kernel
  rw [GcloudSource.tokenOf, hstrip]
  rfl

def printingWorld : World :=
  { World.bare with programs := ⟨[.ended 0 printed none], .absent⟩ }

def programSettings : Settings := { tokenSources := ["gcloud"] }

theorem get_usable_printingWorld :
    ∃ t, ((ofSettings programSettings ⟨"/store.json"⟩).get "gcr.io").runOn printingWorld =
        (.ok ⟨Identity.userName, "ya29"⟩, t) ∧ Text.ofString "ya29" ≠ [] := by
  let requested : World := Journaled.note (requestedLine "gcr.io") printingWorld
  obtain ⟨x, hran⟩ : ∃ x, (programSettings.gcloud.run Default.gcloudArguments).runOn
      (Journaled.note (Resolver.triedLine "gcloud") requested) = (.ok printed, x) := ⟨_, rfl⟩
  have hsource : (GcloudSource.resolve programSettings.gcloud).runOn
      (Journaled.note (Resolver.triedLine "gcloud") requested) = (.ok "ya29", x) := by
    rw [GcloudSource.resolve, runOn_bind, runOn_attempt, hran]
    dsimp only
    rw [runOn_ofExcept, tokenOf_printed]
  have hstop : Resolver.position (programSettings.adapters ⟨"/store.json"⟩) "gcloud" requested =
      .stops (.ok (some "ya29")) (Journaled.note (Resolver.obtainedLine "gcloud") x)
        (some .gcloud) := by
    have hparse : SourceKind.parse "gcloud" = .ok .gcloud := SourceKind.parse_identifier .gcloud
    have hadapter : programSettings.adapters ⟨"/store.json"⟩ .gcloud =
        some (some <$> GcloudSource.resolve programSettings.gcloud) := rfl
    rw [Resolver.position_of_adapter hparse hadapter, runOn_map, hsource]
    rfl
  have hpass := (Resolver.Scans.head hstop []).runOn_resolve
  have hget := runOn_get_of_resolve (Settings.runOn_coordinator_of_pass hpass)
  have hwired : ((wired programSettings defaultDetector ⟨"/store.json"⟩
      programSettings.loginClient.logIn (CredentialStore.save ⟨"/store.json"⟩)).get
      "gcr.io").runOn printingWorld = _ := hget
  exact ⟨_, hget, (get_usable hwired).2.1⟩

end Helper

end CredentialHelper
