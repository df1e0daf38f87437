import CredentialHelper.CommandLine.Run
import CredentialHelper.Proofs.Reauthentication
import CredentialHelper.Proofs.StoreCell
import CredentialHelper.Proofs.TokenInstants

/-!
# From a login to the next request

A login leaves a credential in the store, either by the command for it or on a request for which
the grant turned out to be revoked.  The credential holds what the user granted, and while it lives
the next pass over the sources takes its token as it is.
-/

namespace CredentialHelper

open CredentialHelper.Action World

/-! ## What a login grants -/

namespace Grant

def expires? (g : Grant) : Option Instant := g.expiry.bind Moment.utc?

/-- The access token lives for more than ten seconds. -/
def Outlasts (g : Grant) (now : Instant) : Prop :=
  ∀ e ∈ g.expiry, ∃ t, e.utc? = some t ∧ now.val + 10 * 1000000 < t.val

end Grant

namespace LoginClient

def stored (c : LoginClient) (g : Grant) (token refreshToken : Text) : StoredCredential :=
  ⟨token, refreshToken, g.expires?.map Instant.toMoment, c.clientId, c.clientSecret, c.tokenUri⟩

/-- No text of a client or of what was granted to it holds a split pair. -/
structure Decoded (c : LoginClient) (token refreshToken : Text) : Prop where
  token : Json.Joined token
  refreshToken : Json.Joined refreshToken
  clientId : Json.Joined c.clientId
  clientSecret : Json.Joined c.clientSecret
  tokenUri : Json.Joined c.tokenUri

theorem storable_stored {c : LoginClient} {g : Grant} {token refreshToken : Text}
    (h : c.Decoded token refreshToken) : (c.stored g token refreshToken).Storable := by
  refine ⟨h.token, h.refreshToken, h.clientId, h.clientSecret, h.tokenUri, ?_⟩
  intro m hm o ho
  obtain ⟨t, -, rfl⟩ := Option.map_eq_some_iff.1 hm
  obtain rfl : o = 0 := (Option.some.inj ho).symm
  exact ⟨by decide, by decide⟩

theorem credential_eq_ok {c : LoginClient} {g : Grant} {refreshToken : Text}
    {credential : StoredCredential} (h : c.credential refreshToken g = .ok credential) :
    credential = c.stored g (g.token.getD []) refreshToken := by
  rw [LoginClient.credential] at h
  rw [stored, Grant.expires?]
  cases hexpiry : g.expiry with
  | none =>
    rw [hexpiry] at h
    cases h
    rfl
  | some e =>
    rw [hexpiry] at h
    dsimp only at h
    cases hutc : e.utc? with
    | none =>
      rw [hutc] at h
      cases h
    | some t =>
      rw [hutc] at h
      cases h
      rw [Option.bind_some, hutc]
      rfl

theorem answered_eq_ok {c : LoginClient} {answer : Except Failure Grant} {w w' : World}
    {credential : StoredCredential} (h : (c.answered answer).runOn w = (.ok credential, w')) :
    ∃ g r, answer = .ok g ∧ g.refreshToken = some r ∧ r ≠ [] ∧
      credential = c.stored g (g.token.getD []) r := by
  cases answer with
  | error f => cases h
  | ok g =>
    rw [answered] at h
    split at h
    · cases h
    · next hnonempty =>
      obtain ⟨_, u, -, h⟩ := exists_of_bind_eq_ok h
      rw [runOn_ofExcept] at h
      cases hmade : c.credential (g.refreshToken.getD []) g with
      | error e =>
        rw [hmade] at h
        cases h
      | ok made =>
        rw [hmade] at h
        cases h
        cases hrefresh : g.refreshToken with
        | none =>
          rw [hrefresh] at hnonempty
          exact absurd rfl hnonempty
        | some r =>
          rw [hrefresh] at hnonempty hmade
          refine ⟨g, r, rfl, hrefresh, ?_, credential_eq_ok hmade⟩
          rintro rfl
          exact hnonempty rfl

theorem logIn_eq_ok {c : LoginClient} {w w' : World} {credential : StoredCredential}
    (h : c.logIn.runOn w = (.ok credential, w')) :
    (∃ g r, w.logins.head = .ok g ∧ g.refreshToken = some r ∧ r ≠ [] ∧
      credential = c.stored g (g.token.getD []) r) ∧ w'.now = w.now ∧ w'.homes = w.homes := by
  by_cases hclient : c.clientId ≠ [] ∧ c.clientSecret ≠ []
  · rw [runOn_logIn hclient.1 hclient.2] at h
    have hadvances := c.within_answered w.logins.head (c.asked w)
    rw [h] at hadvances
    have hhomes : w'.homes = w.homes := by
      unfold World.homes World.environment?
      rw [hadvances.environment, hadvances.accounts]
      rfl
    exact ⟨answered_eq_ok h, hadvances.now, hhomes⟩
  · rw [runOn_logIn_of_unconfigured hclient] at h
    cases h

end LoginClient

/-! ## The ways to log in -/

theorem CommandLine.reporting_eq_zero {a : Action World Unit} {w w' : World}
    (h : (reporting a).runOn w = (.ok 0, w')) : a.runOn w = (.ok (), w') := by
  rw [reporting] at h
  obtain ⟨r, u, hrun, h⟩ := exists_of_bind_eq_ok h
  rw [runOn_attempt] at hrun
  cases hrun
  split at h
  · next hok =>
    cases h
    exact Prod.ext hok rfl
  · obtain ⟨_, v, -, h⟩ := exists_of_bind_eq_ok h
    cases h
  · cases h

theorem Coordinator.wrapping_eq_ok {σ α : Type} {kind : ErrorKind} {message : Text}
    {a : Action σ α} {s t : σ} {x : α} (h : (wrapping kind message a).runOn s = (.ok x, t)) :
    a.runOn s = (.ok x, t) := by
  rw [wrapping] at h
  obtain ⟨r, u, hrun, h⟩ := exists_of_bind_eq_ok h
  rw [runOn_attempt] at hrun
  cases hrun
  split at h
  · next hok =>
    cases h
    exact Prod.ext hok rfl
  · cases h
  · cases h

namespace Settings

variable {s : Settings} {store : CredentialStore} {w w' : World}

/-- On a request for a credential in the world `x` the first pass over the sources notices a revoked
grant; the login after it begins in `w`, completes and leaves `w'`. -/
def Renews (s : Settings) (store : CredentialStore) (registry : Text) (x w w' : World) : Prop :=
  ∃ e error subtype u,
    (Resolver.resolve (s.adapters store) s.tokenSources).runOn
      (Journaled.note (Helper.requestedLine registry) x) = (.error (.helper e), u) ∧
    e.kind = .revokedGrant error subtype ∧
    w = Journaled.note (Coordinator.revokedLine error subtype) u ∧
    (s.coordinator store).reauthenticate.runOn w = (.ok (), w')

/-- A login that begins in `w` completes and leaves `w'`. -/
inductive LogsIn (s : Settings) (store : CredentialStore) (w w' : World) : Prop
  | byCommand (input : Bytes) (named : s.store w.homes = .ok store)
      (run : (CommandLine.perform s input .logIn).runOn w = (.ok 0, w'))
  | onRequest (registry : Text) (x : World) (renews : s.Renews store registry x w w')

theorem LogsIn.exists_save (h : s.LogsIn store w w') :
    ∃ credential u v v', u.logins = w.logins ∧ u.now = w.now ∧
      s.loginClient.logIn.runOn u = (.ok credential, v) ∧
      (store.save credential).runOn v = (.ok (), v') ∧ w'.files = v'.files ∧ w'.now = v'.now := by
  cases h with
  | byCommand input named run =>
    have hrun := CommandLine.reporting_eq_zero run
    obtain ⟨credential, v, hlogin, hafter⟩ := exists_of_bind_eq_ok hrun
    obtain ⟨store', v₁, hstore, hlast⟩ := exists_of_bind_eq_ok hafter
    obtain ⟨_, v', hsave, htell⟩ := exists_of_bind_eq_ok hlast
    obtain ⟨-, -, hhomes⟩ := LoginClient.logIn_eq_ok hlogin
    rw [CommandLine.makeStore, runOn_bind, runOn_get] at hstore
    dsimp only at hstore
    rw [hhomes, named] at hstore
    cases hstore
    cases htell
    exact ⟨credential, w, v, v', rfl, rfl, hlogin, hsave, rfl, rfl⟩
  | onRequest registry x renews =>
    obtain ⟨-, -, -, -, -, -, -, hrun⟩ := renews
    rw [Coordinator.reauthenticate] at hrun
    obtain ⟨_, u, htell, hafter⟩ := exists_of_bind_eq_ok hrun
    obtain ⟨credential, v, hlogin, hlast⟩ := exists_of_bind_eq_ok hafter
    obtain ⟨_, v', hsave, htell'⟩ := exists_of_bind_eq_ok hlast
    cases htell
    cases htell'
    exact ⟨credential, Journaled.note (.status Coordinator.loginAnnounced) w, v, v', rfl, rfl,
      Coordinator.wrapping_eq_ok hlogin, Coordinator.wrapping_eq_ok hsave, rfl, rfl⟩

theorem LogsIn.of_save {credential : StoredCredential} {v v' : World} (input : Bytes)
    (named : s.store w.homes = .ok store)
    (hlogin : s.loginClient.logIn.runOn w = (.ok credential, v))
    (hsave : (store.save credential).runOn v = (.ok (), v')) :
    s.LogsIn store w (Journaled.note (.status (Text.ofString "Login Succeeded" ++ "\n")) v') := by
  obtain ⟨-, -, hhomes⟩ := LoginClient.logIn_eq_ok hlogin
  have hmade : (CommandLine.makeStore s).runOn v = (.ok store, v) := by
    rw [CommandLine.makeStore, runOn_bind, runOn_get]
    dsimp only
    rw [hhomes, named]
    rfl
  refine .byCommand input named ?_
  rw [CommandLine.perform, CommandLine.answerLogIn, CommandLine.reporting, runOn_bind,
    runOn_attempt, runOn_bind, hlogin]
  dsimp only
  rw [runOn_bind, hmade]
  dsimp only
  rw [runOn_bind, hsave]
  rfl

/-- After a login the store holds what was granted. -/
theorem LogsIn.read_stored (h : s.LogsIn store w w') {g : Grant} {token refreshToken : Text}
    (hgrant : w.logins.head = .ok g) (htoken : g.token = some token)
    (hrefresh : g.refreshToken = some refreshToken)
    (hdecoded : s.loginClient.Decoded token refreshToken) :
    refreshToken ≠ [] ∧ w'.now = w.now ∧
      (StoreFile.read w'.files store.path).bind (StoreFile.credential store.path) =
        .ok (s.loginClient.stored g token refreshToken) := by
  obtain ⟨credential, u, v, v', hlogins, hunow, hlogin, hsave, hfiles, hnow⟩ := h.exists_save
  obtain ⟨⟨g', r, hhead, hr, hne, hcredential⟩, hvnow, -⟩ := LoginClient.logIn_eq_ok hlogin
  obtain ⟨hsaved, hv'now⟩ := CredentialStore.save_eq_ok hsave
  rw [hlogins, hgrant] at hhead
  cases hhead
  rw [hrefresh] at hr
  cases hr
  rw [htoken, Option.getD_some] at hcredential
  refine ⟨hne, by rw [hnow, hv'now, hvnow, hunow], ?_⟩
  rw [hfiles, ← hcredential]
  refine StoreFile.credential_of_save ?_ hsaved
  rw [hcredential]
  exact LoginClient.storable_stored hdecoded

end Settings

/-! ## A token that still lives -/

theorem Token.outlasts_toMoment {t now : Instant} (h : now.val + 10 * 1000000 < t.val) :
    outlasts t.toMoment now.toMoment = .ok true := by
  rw [outlasts_eq_true_iff, Instant.micros_toMoment, Instant.micros_toMoment]
  exact ⟨now.inYears.1, t.inYears.2, by omega⟩

theorem LoginClient.isLive_stored (c : LoginClient) {g : Grant} {token : Text}
    (refreshToken : Text) {now : Instant} (hne : token ≠ []) (h : g.Outlasts now) :
    (c.stored g token refreshToken).token.isLive now.toMoment = .ok true := by
  have hempty : token.isEmpty = false := List.isEmpty_eq_false_iff.2 hne
  unfold stored StoredCredential.token Token.isLive Token.isValid Grant.expires?
  dsimp only
  cases hexpiry : g.expiry with
  | none =>
    rw [hempty]
    rfl
  | some e =>
    obtain ⟨t, hutc, hlt⟩ := h e hexpiry
    have houtlasts : Token.outlasts ⟨t, some 0⟩ now.toMoment = .ok true :=
      Token.outlasts_toMoment hlt
    rw [Option.bind_some, hutc, hempty]
    simpa [Instant.toMoment] using houtlasts

def Refresh.stillValidLine : Line := .log ⟨.debug, "store", "Stored access token still valid"⟩

theorem Refresh.runOn_currentToken_of_isLive {c : StoredCredential} {w : World} (timeout : Int)
    (h : c.token.isLive w.now.toMoment = .ok true) :
    (currentToken timeout c).runOn w = (.ok c.token, Journaled.note stillValidLine w) := by
  rw [currentToken, runOn_bind, runOn_get]
  dsimp only
  rw [h]
  rfl

/-- A token that lives is given as it is, without a request. -/
theorem StoreSource.runOn_resolve_of_isLive {store : CredentialStore} {w : World}
    {c : StoredCredential} (timeout : Int) (hload : (store.load.runOn w).1 = .ok c)
    (hlive : c.token.isLive w.now.toMoment = .ok true) :
    (resolve store timeout).runOn w = (.ok c.accessToken,
      Journaled.note Refresh.stillValidLine (Journaled.note store.loadingLine w)) := by
  have hrun : store.load.runOn w = (.ok c, Journaled.note store.loadingLine w) := by
    rw [CredentialStore.runOn_load] at hload ⊢
    exact Prod.ext hload rfl
  have hcurrent := Refresh.runOn_currentToken_of_isLive timeout
    (show c.token.isLive (Journaled.note store.loadingLine w : World).now.toMoment = .ok true from
      hlive)
  rw [resolve, runOn_bind, hrun]
  dsimp only
  rw [runOn_bind, hcurrent]
  dsimp only
  rw [runOn_bind, runOn_get]
  dsimp only
  rw [show c.token.isLive (Journaled.note Refresh.stillValidLine
    (Journaled.note store.loadingLine w) : World).now.toMoment = .ok true from hlive]
  rfl

/-! ## The next pass -/

namespace Settings

variable {s : Settings} {store : CredentialStore}

/-- Once the sources before the store have failed for themselves, the pass ends with the token in
the store, if it lives, and asks nothing more. -/
theorem runOn_resolve_of_store {before after : List Text} {u v : World} {es : List HelperError}
    {c : StoredCredential} (hsources : s.tokenSources = before ++ Text.ofString "store" :: after)
    (passed : Resolver.Passes (s.adapters store) before u es v)
    (hload : (store.load.runOn u).1 = .ok c)
    (hlive : c.token.isLive u.now.toMoment = .ok true) :
    ∃ u', (Resolver.resolve (s.adapters store) s.tokenSources).runOn u =
      (.ok (some c.accessToken), u') ∧ u'.events = v.events := by
  have hadvances := passed.advances fun _ _ => s.within_adapters store
  let tried : World := Journaled.note (Resolver.triedLine "store") v
  have hload' : (store.load.runOn tried).1 = .ok c := by
    rw [CredentialStore.runOn_load] at hload ⊢
    show (StoreFile.read v.files store.path).bind _ = _
    rw [hadvances.files]
    exact hload
  have hlive' : c.token.isLive tried.now.toMoment = .ok true := by
    show c.token.isLive v.now.toMoment = _
    rw [hadvances.now]
    exact hlive
  have hrun := StoreSource.runOn_resolve_of_isLive s.httpTimeout hload' hlive'
  have hstop : Resolver.position (s.adapters store) "store" v = .stops (.ok (some c.accessToken))
      (Journaled.note (Resolver.obtainedLine "store") (Journaled.note Refresh.stillValidLine
        (Journaled.note store.loadingLine tried))) (some .store) := by
    rw [Resolver.position_of_adapter (SourceKind.parse_eq_store_iff.2 rfl) rfl, runOn_map, hrun]
    rfl
  rw [hsources, (Resolver.Scans.stopped passed hstop).runOn_resolve]
  exact ⟨_, rfl, rfl⟩

theorem runOn_coordinator_of_pass {u u' : World} {token : Option Text}
    (h : (Resolver.resolve (s.adapters store) s.tokenSources).runOn u = (.ok token, u')) :
    ((s.coordinator store).resolve s.tokenSources).runOn u = (.ok token, u') := by
  have hadapters : (s.coordinator store).adapters = s.adapters store := rfl
  rw [Coordinator.runOn_resolve, hadapters, h]

/-- After a login on a request the second pass is what the request comes to. -/
theorem runOn_coordinator_of_renews {registry : Text} {x w w' : World}
    (h : s.Renews store registry x w w') :
    ((s.coordinator store).resolve s.tokenSources).runOn
        (Journaled.note (Helper.requestedLine registry) x) =
      (Resolver.resolve (s.adapters store) s.tokenSources).runOn w' := by
  obtain ⟨e, error, subtype, u, hfirst, hkind, rfl, hrun⟩ := h
  have hadapters : (s.coordinator store).adapters = s.adapters store := rfl
  rw [Coordinator.runOn_resolve, hadapters, hfirst]
  dsimp only
  rw [hkind]
  dsimp only
  rw [runOn_bind, hrun]

end Settings

namespace Helper

theorem runOn_get_of_resolve {s : Settings} {store : CredentialStore} {registry token : Text}
    {x u' : World}
    (h : ((s.coordinator store).resolve s.tokenSources).runOn
      (Journaled.note (requestedLine registry) x) = (.ok (some token), u')) :
    ((ofSettings s store).get registry).runOn x = (.ok ⟨Identity.userName, token⟩, u') := by
  rw [runOn_get, ofSettings]
  dsimp only
  rw [h]
  rfl

/-- After a login that completed the store holds what was granted, and where the pass that follows
comes to the store it gives the granted token without a request: a pass on any later request, while
the store file is as it was and the token lives, and the second pass of the same request. -/
theorem get_of_logsIn {s : Settings} {store : CredentialStore} {w w' : World} {g : Grant}
    {token refreshToken : Text} (hlogin : s.LogsIn store w w') (hgrant : w.logins.head = .ok g)
    (htoken : g.token = some token) (hrefresh : g.refreshToken = some refreshToken)
    (hne : token ≠ []) (houtlasts : g.Outlasts w.now)
    (hdecoded : s.loginClient.Decoded token refreshToken) :
    (refreshToken ≠ [] ∧
      (store.load.runOn w').1 = .ok (s.loginClient.stored g token refreshToken)) ∧
    (∀ (s' : Settings) (registry : Text) (before after : List Text) (u v : World)
      (es : List HelperError), s'.tokenSources = before ++ Text.ofString "store" :: after →
      StoreFile.read u.files store.path = StoreFile.read w'.files store.path →
      g.Outlasts u.now →
      Resolver.Passes (s'.adapters store) before (Journaled.note (requestedLine registry) u) es v →
      ∃ u', ((ofSettings s' store).get registry).runOn u = (.ok ⟨Identity.userName, token⟩, u') ∧
        u'.events = v.events) ∧
    (∀ (registry : Text) (before after : List Text) (x v : World) (es : List HelperError),
      s.tokenSources = before ++ Text.ofString "store" :: after → s.Renews store registry x w w' →
      Resolver.Passes (s.adapters store) before w' es v →
      ∃ u', ((ofSettings s store).get registry).runOn x = (.ok ⟨Identity.userName, token⟩, u') ∧
        u'.events = v.events) := by
  obtain ⟨hnonempty, hnow, hstored⟩ := hlogin.read_stored hgrant htoken hrefresh hdecoded
  have hload (u : World) (h : StoreFile.read u.files store.path =
      StoreFile.read w'.files store.path) :
      (store.load.runOn u).1 = .ok (s.loginClient.stored g token refreshToken) := by
    rw [CredentialStore.runOn_load, h]
    exact hstored
  refine ⟨⟨hnonempty, hload w' rfl⟩, ?_, ?_⟩
  · intro s' registry before after u v es hsources hread hlive passed
    obtain ⟨u', hpass, hevents⟩ := Settings.runOn_resolve_of_store hsources passed (hload _ hread)
      (s.loginClient.isLive_stored refreshToken hne hlive)
    exact ⟨u', runOn_get_of_resolve (Settings.runOn_coordinator_of_pass hpass), hevents⟩
  · intro registry before after x v es hsources hrenews passed
    obtain ⟨u', hpass, hevents⟩ := Settings.runOn_resolve_of_store hsources passed
      (hload w' rfl) (s.loginClient.isLive_stored refreshToken hne (hnow ▸ houtlasts))
    have hresolve := Settings.runOn_coordinator_of_renews hrenews
    exact ⟨u', runOn_get_of_resolve (hresolve.trans hpass), hevents⟩

def grantingWorld : World :=
  { World.bare with
    logins := ⟨[.ok ⟨some "token", some "refresh", some ⟨⟨63871203600000000, by decide⟩, some 0⟩⟩],
      .error (.foreign .noHome)⟩ }

def storeSettings : Settings :=
  { tokenSources := ["store"], clientId := "id", clientSecret := "secret",
    credentialFile := "creds.json" }

theorem decoded_storeSettings (token refreshToken : String) :
    storeSettings.loginClient.Decoded token refreshToken :=
  ⟨Json.joined_ofString _, Json.joined_ofString _, Json.joined_ofString _, Json.joined_ofString _,
    Json.joined_ofString _⟩

theorem logsIn_grantingWorld : ∃ w', storeSettings.LogsIn ⟨"creds.json"⟩ grantingWorld w' := by
  obtain ⟨credential, v, hlogin, hfiles⟩ : ∃ credential v,
      storeSettings.loginClient.logIn.runOn grantingWorld = (.ok credential, v) ∧
        v.files = World.bare.files := ⟨_, _, rfl, rfl⟩
  have hstorable : credential.Storable := by
    obtain ⟨⟨g, r, hhead, hr, -, rfl⟩, -⟩ := LoginClient.logIn_eq_ok hlogin
    cases hhead
    cases hr
    exact LoginClient.storable_stored (decoded_storeSettings _ _)
  obtain ⟨files, hsave, -⟩ :=
    StoreFile.Keeps.save CredentialStore.starts_bare (.inl ⟨rfl, rfl⟩) hstorable
  have hsaved : (CredentialStore.save ⟨"creds.json"⟩ credential).runOn v =
      (.ok (), Journaled.note (CredentialStore.savedLine ⟨"creds.json"⟩) { v with files }) := by
    rw [CredentialStore.runOn_save, hfiles, hsave]
  exact ⟨_, .of_save [] rfl hlogin hsaved⟩

theorem get_of_logsIn_grantingWorld :
    ∃ w', storeSettings.LogsIn ⟨"creds.json"⟩ grantingWorld w' ∧
      (((ofSettings storeSettings ⟨"creds.json"⟩).get "gcr.io").runOn w').1 =
        .ok ⟨Identity.userName, "token"⟩ := by
  obtain ⟨w', hlogin⟩ := logsIn_grantingWorld
  have houtlasts : Grant.Outlasts
      ⟨some "token", some "refresh", some ⟨⟨63871203600000000, by decide⟩, some 0⟩⟩
      grantingWorld.now := by
    rintro e ⟨⟩
    exact ⟨_, Instant.utc?_toMoment ⟨63871203600000000, by decide⟩, by decide⟩
  have hall := get_of_logsIn hlogin rfl rfl rfl (by decide) houtlasts (decoded_storeSettings _ _)
  obtain ⟨-, hnow, -⟩ := hlogin.read_stored rfl rfl rfl (decoded_storeSettings "token" "refresh")
  obtain ⟨u', hget, -⟩ := hall.2.1 storeSettings "gcr.io" [] [] w' _ [] rfl rfl
    (hnow ▸ houtlasts) (.nil _)
  exact ⟨w', hlogin, congrArg Prod.fst hget⟩

end Helper

end CredentialHelper
