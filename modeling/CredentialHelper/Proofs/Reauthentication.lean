import CredentialHelper.Proofs.RevokedGrant

/-!
# When the user has to log in again

A resolution ends with a revoked grant if and only if every source fails for itself and the last one
reports it.  From there one login is announced and no second one, whatever the sources answer after
it.  Logins are counted in two ways: the announcements in the journal, and the requests to the
browser among the events, which need a configured client.
-/

namespace CredentialHelper

open CredentialHelper.Action World

/-! ## A resolution that ends with a revoked grant -/

namespace Resolver

section

variable {σ : Type} [Journaled σ] {adapters : Adapters σ}

/-- What stops a resolution is no revoked grant: that is a failure of a single source. -/
theorem Position.not_revokes_of_ofCall_eq_stops {identifier : Text} {kind : SourceKind} {t : σ}
    {call : Except Failure (Option Text) × σ} {result : Except Failure (Option Text)}
    {called : Option SourceKind} (h : ofCall identifier kind call = .stops result t called) :
    revokes result = false := by
  rcases call with ⟨(e | c) | token, u⟩
  · simp only [ofCall] at h
    by_cases he : e.kind.isSourceFailure = true
    · rw [if_pos he] at h
      cases h
    · rw [if_neg he] at h
      cases h
      rw [revokes_helper, ← Bool.not_eq_true]
      exact fun hrevoked => he (ErrorKind.isSourceFailure_of_isRevokedGrant hrevoked)
  · cases h
    rfl
  · cases h
    rfl

theorem not_revokes_of_position_eq_stops {identifier : Text} {s t : σ}
    {result : Except Failure (Option Text)} {called : Option SourceKind}
    (h : position adapters identifier s = .stops result t called) : revokes result = false := by
  cases called with
  | none =>
    obtain ⟨-, e, rfl, hkind⟩ := result_of_position_eq_stops_none h
    rw [revokes_helper, hkind]
    rfl
  | some kind =>
    have hparse := parse_of_position_eq_stops h
    cases ha : adapters kind with
    | none =>
      rw [position_of_absent hparse ha] at h
      cases h
    | some adapter =>
      rw [position_of_adapter hparse ha] at h
      exact Position.not_revokes_of_ofCall_eq_stops h

/-- A position passes with a revoked grant if and only if its source reports one. -/
theorem position_revokes_iff {identifier : Text} {s : σ} :
    (∃ e t kind, position adapters identifier s = .passes e t kind ∧
        e.kind.isRevokedGrant = true) ↔
      ∃ kind adapter, SourceKind.parse identifier = .ok kind ∧ adapters kind = some adapter ∧
        revokes (adapter.runOn (Journaled.note (triedLine identifier) s)).1 = true := by
  constructor
  · rintro ⟨e, t, kind, h, he⟩
    obtain ⟨hparse, -, adapter, u, ha, hrun, -⟩ := position_eq_passes_iff.1 h
    exact ⟨kind, adapter, hparse, ha, by rw [hrun]; exact he⟩
  · rintro ⟨kind, adapter, hparse, ha, h⟩
    rcases hrun : adapter.runOn (Journaled.note (triedLine identifier) s) with ⟨(e | c) | token, u⟩
    · rw [hrun] at h
      have hsource := ErrorKind.isSourceFailure_of_isRevokedGrant h
      exact ⟨e, _, kind, position_eq_passes_iff.2 ⟨hparse, hsource, adapter, u, ha, hrun, rfl⟩, h⟩
    · rw [hrun] at h
      cases h
    · rw [hrun] at h
      cases h

theorem Passes.exists_last {identifiers : List Text} {s t : σ} {es : List HelperError}
    {e : HelperError} (passed : Passes adapters identifiers s (es ++ [e]) t) :
    ∃ before last u kind, identifiers = before ++ [last] ∧ Passes adapters before s es u ∧
      position adapters last u = .passes e t kind := by
  induction es generalizing identifiers s with
  | nil =>
    obtain ⟨-⟩ | ⟨head, tail⟩ := passed
    cases tail
    exact ⟨[], _, s, _, rfl, .nil s, head⟩
  | cons e' es ih =>
    obtain ⟨-⟩ | ⟨head, tail⟩ := passed
    obtain ⟨before, last, u, kind, rfl, hbefore, hlast⟩ := ih tail
    exact ⟨_ :: before, last, u, kind, rfl, .cons head hbefore, hlast⟩

theorem exists_passes_of_revokes {identifiers : List Text} {s : σ}
    (h : revokes ((resolve adapters identifiers).runOn s).1 = true) :
    ∃ es t, Passes adapters identifiers s es t := by
  obtain ⟨r, hr⟩ := exists_scans adapters identifiers s
  rw [hr.runOn_resolve] at h
  cases hr with
  | empty s => cases h
  | stopped passed stop =>
    rw [not_revokes_of_position_eq_stops stop] at h
    cases h
  | exhausted passed => exact ⟨_, _, passed⟩

/-- A resolution ends with a revoked grant if and only if all positions pass and the source of the
last one reports it. -/
theorem revokes_resolve_iff {identifiers : List Text} {s : σ} :
    revokes ((resolve adapters identifiers).runOn s).1 = true ↔
      ∃ before last es t kind adapter, identifiers = before ++ [last] ∧
        Passes adapters before s es t ∧ SourceKind.parse last = .ok kind ∧
        adapters kind = some adapter ∧
        revokes (adapter.runOn (Journaled.note (triedLine last) t)).1 = true := by
  constructor
  · intro h
    obtain ⟨r, hr⟩ := exists_scans adapters identifiers s
    rw [hr.runOn_resolve] at h
    cases hr with
    | empty s => cases h
    | stopped passed stop =>
      rw [not_revokes_of_position_eq_stops stop] at h
      cases h
    | exhausted passed =>
      obtain ⟨before, last, u, kind, rfl, hbefore, hlast⟩ := passed.exists_last
      obtain ⟨kind, adapter, hparse, ha, hrun⟩ := position_revokes_iff.1 ⟨_, _, _, hlast, h⟩
      exact ⟨before, last, _, u, kind, adapter, rfl, hbefore, hparse, ha, hrun⟩
  · rintro ⟨before, last, es, t, kind, adapter, rfl, hbefore, hparse, ha, hrun⟩
    obtain ⟨e, u, kind, hlast, he⟩ := position_revokes_iff.2 ⟨kind, adapter, hparse, ha, hrun⟩
    have hall := hbefore.append (.cons hlast (.nil u))
    rw [(Scans.exhausted hall).runOn_resolve]
    exact he

end

end Resolver

/-! ## The sources of the settings -/

namespace SourceKind

theorem mem_known_of_parse {identifier : Text} {kind : SourceKind}
    (h : parse identifier = .ok kind) : (identifier, kind) ∈ known := by
  rw [parse] at h
  split at h
  · next kind' hlookup =>
    cases h
    obtain ⟨before, after, hknown, -⟩ := List.lookup_eq_some_iff.1 hlookup
    rw [hknown]
    exact List.mem_append_right before List.mem_cons_self
  · cases h

theorem parse_eq_store_iff {identifier : Text} :
    parse identifier = .ok .store ↔ identifier = Text.ofString "store" := by
  constructor
  · intro h
    simpa [known] using mem_known_of_parse h
  · rintro rfl
    exact parse_identifier .store

theorem parse_eq_env_iff {identifier : Text} :
    parse identifier = .ok .env ↔ identifier = Text.ofString "env" := by
  constructor
  · intro h
    simpa [known] using mem_known_of_parse h
  · rintro rfl
    exact parse_identifier .env

end SourceKind

namespace Settings

/-- Every source fails for itself, and the last one reports a revoked grant. -/
def GrantRevoked (s : Settings) (store : CredentialStore) (w : World) : Prop :=
  ∃ (before : List Text) (last : Text) (es : List HelperError) (t : World),
    s.tokenSources = before ++ [last] ∧ Resolver.Passes (s.adapters store) before w es t ∧
      (last = "store" ∧ StoreSource.Revoked store s.httpTimeout t ∨
        last = "env" ∧ AmbientSource.Revoked t)

/-- The source of an identifier reports a revoked grant in one of the two ways. -/
theorem revokes_adapter_iff {s : Settings} {store : CredentialStore} {identifier : Text} {w : World}
    (hw : w.Foreign) :
    (∃ kind adapter, SourceKind.parse identifier = .ok kind ∧
        s.adapters store kind = some adapter ∧ revokes (adapter.runOn w).1 = true) ↔
      identifier = "store" ∧ StoreSource.Revoked store s.httpTimeout w ∨
        identifier = "env" ∧ AmbientSource.Revoked w := by
  rw [← SourceKind.parse_eq_store_iff, ← SourceKind.parse_eq_env_iff]
  constructor
  · rintro ⟨kind, adapter, hparse, ha, h⟩
    cases kind with
    | env =>
      cases ha
      rw [runOn_map, revokes_map, AmbientSource.revokes_resolve hw] at h
      exact .inr ⟨hparse, h⟩
    | gcloud =>
      cases ha
      rw [runOn_map, revokes_map, GcloudSource.revokes_resolve hw] at h
      cases h
    | store =>
      cases ha
      rw [runOn_map, revokes_map, StoreSource.revokes_resolve hw] at h
      exact .inl ⟨hparse, h⟩
  · rintro (⟨hparse, h⟩ | ⟨hparse, h⟩)
    · refine ⟨_, _, hparse, rfl, ?_⟩
      rw [runOn_map, revokes_map, StoreSource.revokes_resolve hw]
      exact h
    · refine ⟨_, _, hparse, rfl, ?_⟩
      rw [runOn_map, revokes_map, AmbientSource.revokes_resolve hw]
      exact h

theorem grantRevoked_iff {s : Settings} {store : CredentialStore} {w : World} (hw : w.Foreign) :
    revokes ((Resolver.resolve (s.adapters store) s.tokenSources).runOn w).1 = true ↔
      s.GrantRevoked store w := by
  rw [Resolver.revokes_resolve_iff, GrantRevoked]
  refine exists_congr fun before => exists_congr fun last => exists_congr fun es =>
    exists_congr fun t => ?_
  -- the log record that a source is tried changes nothing that the sources look at
  constructor
  · rintro ⟨kind, adapter, hids, hbefore, hparse, ha, h⟩
    have htried : t.Advances (Journaled.note (Resolver.triedLine last) t) := advances_note t rfl
    have ht := hw.advances ((hbefore.advances fun _ _ => s.within_adapters store).trans htried)
    exact ⟨hids, hbefore, (revokes_adapter_iff ht).1 ⟨kind, adapter, hparse, ha, h⟩⟩
  · rintro ⟨hids, hbefore, h⟩
    have htried : t.Advances (Journaled.note (Resolver.triedLine last) t) := advances_note t rfl
    have ht := hw.advances ((hbefore.advances fun _ _ => s.within_adapters store).trans htried)
    obtain ⟨kind, adapter, hparse, ha, hrun⟩ := (revokes_adapter_iff ht).2 h
    exact ⟨kind, adapter, hids, hbefore, hparse, ha, hrun⟩

/-- There are sources, each of which is known and fails for itself, and the failure of the last one
is a revoked grant. -/
structure NeedsLogin (s : Settings) (store : CredentialStore) (w : World) : Prop where
  nonempty : s.tokenSources ≠ []
  known : ∀ identifier ∈ s.tokenSources, ∃ kind, SourceKind.parse identifier = .ok kind
  passes : ∃ es t, Resolver.Passes (s.adapters store) s.tokenSources w es t
  revoked : s.GrantRevoked store w

/-- A revoked grant leaves no source untried. -/
theorem needsLogin_iff {s : Settings} {store : CredentialStore} {w : World} (hw : w.Foreign) :
    s.NeedsLogin store w ↔ s.GrantRevoked store w := by
  constructor
  · exact NeedsLogin.revoked
  · intro h
    obtain ⟨es, t, passed⟩ := Resolver.exists_passes_of_revokes ((grantRevoked_iff hw).2 h)
    refine ⟨?_, ?_, ⟨es, t, passed⟩, h⟩
    · obtain ⟨before, last, -, -, hids, -⟩ := h
      simp [hids]
    · intro identifier hmem
      have hparse := List.mem_map_of_mem (f := SourceKind.parse) hmem
      rw [passed.map_parse] at hparse
      obtain ⟨kind, -, hkind⟩ := List.mem_map.1 hparse
      exact ⟨kind, hkind.symm⟩

end Settings

/-! ## Counting logins -/

namespace World

def loginsAnnounced (w : World) : Nat := w.journal.count (.status Coordinator.loginAnnounced)

def loginsAsked (w : World) : Nat := w.events.countP Event.isLogin

structure KeepsLogins (w t : World) : Prop where
  announced : t.loginsAnnounced = w.loginsAnnounced
  asked : t.loginsAsked = w.loginsAsked

instance : Std.Refl KeepsLogins := ⟨fun _ => ⟨rfl, rfl⟩⟩

instance : IsTrans World KeepsLogins :=
  ⟨fun _ _ _ h h' => ⟨h'.announced.trans h.announced, h'.asked.trans h.asked⟩⟩

theorem Advances.keepsLogins {w t : World} (h : w.Advances t) : w.KeepsLogins t := by
  obtain ⟨es, hes, hevents⟩ := h.events
  obtain ⟨lines, hlines, hjournal⟩ := h.journal
  constructor
  · have : lines.count (.status Coordinator.loginAnnounced) = 0 :=
      List.count_eq_zero_of_not_mem fun hmem => by cases hjournal _ hmem
    rw [loginsAnnounced, hlines, List.count_append, this]
    rfl
  · have : es.countP Event.isLogin = 0 :=
      List.countP_eq_zero.2 fun e he => by simp [hevents e he]
    rw [loginsAsked, hes, List.countP_append, this]
    rfl

theorem loginsAnnounced_note (line : Line) (w : World) :
    (Journaled.note line w : World).loginsAnnounced =
      w.loginsAnnounced + if line = .status Coordinator.loginAnnounced then 1 else 0 := by
  rw [loginsAnnounced, loginsAnnounced]
  exact (List.count_append ..).trans (by rw [List.count_singleton]; simp)

theorem keepsLogins_note (w : World) {line : Line}
    (h : line ≠ .status Coordinator.loginAnnounced) : w.KeepsLogins (Journaled.note line w) :=
  ⟨by rw [loginsAnnounced_note, if_neg h, Nat.add_zero], rfl⟩

theorem within_keepsLogins_of_advances {α : Type} {a : Action World α} (h : Within Advances a) :
    Within KeepsLogins a :=
  h.of_imp fun _ _ => Advances.keepsLogins

end World

/-! ## One login -/

namespace LoginClient

def answered (c : LoginClient) : Except Failure Grant → Action World StoredCredential
  | .error f => Action.fail (incomplete f)
  | .ok grant =>
    let refreshToken := grant.refreshToken.getD []
    if refreshToken.isEmpty then
      Action.fail (.plain .login "login did not grant a refresh token" revokeFirst)
    else do
      Action.log .info "login" "Interactive login completed"
      Action.ofExcept ((c.credential refreshToken grant).mapError fun e => .foreign (.range e))

def asked (c : LoginClient) (w : World) : World :=
  { w with
    logins := w.logins.tail
    events := w.events ++ [.login c.request]
    journal := w.journal ++ [.log ⟨.debug, "login", "Starting local-server OAuth flow"⟩] }

theorem runOn_logIn {c : LoginClient} (hid : c.clientId ≠ []) (hsecret : c.clientSecret ≠ [])
    (w : World) : c.logIn.runOn w = (c.answered w.logins.head).runOn (c.asked w) := by
  have hconfigured : (c.clientId.isEmpty || c.clientSecret.isEmpty) = false := by
    simp [hid, hsecret]
  rw [logIn, hconfigured]
  simp only [Bool.false_eq_true, if_false, runOn_bind, runOn_log, runOn_attempt, askLogin,
    runOn_ofFunction]
  cases w.logins.head <;> rfl

theorem runOn_logIn_of_unconfigured {c : LoginClient}
    (h : ¬(c.clientId ≠ [] ∧ c.clientSecret ≠ [])) (w : World) :
    c.logIn.runOn w = (.error (.plain .login "no OAuth client configured for interactive login"
      configureFirst), w) := by
  have hunconfigured : (c.clientId.isEmpty || c.clientSecret.isEmpty) = true := by
    by_cases hid : c.clientId = []
    · simp [hid]
    · have hsecret : c.clientSecret = [] := Decidable.by_contra fun hs => h ⟨hid, hs⟩
      simp [hsecret]
  rw [logIn, hunconfigured]
  rfl

theorem within_answered (c : LoginClient) (r : Except Failure Grant) :
    Within Advances (c.answered r) := by
  cases r with
  | error f => exact within_fail _
  | ok grant =>
    rw [answered]
    split
    · exact within_fail _
    · exact (within_log _ _ _).bind fun _ => within_ofExcept _

theorem loginsAsked_asked (c : LoginClient) (w : World) :
    (c.asked w).loginsAsked = w.loginsAsked + 1 := by
  rw [loginsAsked, asked, List.countP_append]
  rfl

theorem loginsAnnounced_asked (c : LoginClient) (w : World) :
    (c.asked w).loginsAnnounced = w.loginsAnnounced := by
  rw [loginsAnnounced, asked, List.count_append]
  rfl

/-- A login asks the browser once if there is a client, and not at all without one. -/
theorem loginsAsked_logIn (c : LoginClient) (w : World) :
    (c.logIn.runOn w).2.loginsAsked =
      w.loginsAsked + if c.clientId ≠ [] ∧ c.clientSecret ≠ [] then 1 else 0 := by
  by_cases hclient : c.clientId ≠ [] ∧ c.clientSecret ≠ []
  · rw [runOn_logIn hclient.1 hclient.2, if_pos hclient,
      (c.within_answered _ _).keepsLogins.asked, loginsAsked_asked]
  · rw [runOn_logIn_of_unconfigured hclient, if_neg hclient]
    rfl

theorem loginsAnnounced_logIn (c : LoginClient) (w : World) :
    (c.logIn.runOn w).2.loginsAnnounced = w.loginsAnnounced := by
  by_cases hclient : c.clientId ≠ [] ∧ c.clientSecret ≠ []
  · rw [runOn_logIn hclient.1 hclient.2, (c.within_answered _ _).keepsLogins.announced,
      loginsAnnounced_asked]
  · rw [runOn_logIn_of_unconfigured hclient]

end LoginClient

theorem CredentialStore.keepsLogins_save (s : CredentialStore) (c : StoredCredential) :
    Within KeepsLogins (s.save c) := by
  intro w
  rw [runOn_save]
  rcases StoreFile.save w.files s.path c with ⟨files, f | _⟩
  · exact ⟨rfl, rfl⟩
  · have hfiles : w.KeepsLogins { w with files } := ⟨rfl, rfl⟩
    exact IsTrans.trans _ _ _ hfiles (keepsLogins_note _ (by simp [savedLine]))

namespace Coordinator

variable {σ : Type} [Journaled σ]

omit [Journaled σ] in
theorem within_wrapping {R : σ → σ → Prop} [Std.Refl R] [IsTrans σ R] {α : Type} {kind : ErrorKind}
    {message : Text} {a : Action σ α} (h : Within R a) : Within R (wrapping kind message a) := by
  refine h.attempt.bind fun r => ?_
  rcases r with (e | c) | x
  · exact within_fail _
  · exact within_fail _
  · exact within_pure _

omit [Journaled σ] in
theorem state_wrapping {α : Type} (kind : ErrorKind) (message : Text) (a : Action σ α) (s : σ) :
    ((wrapping kind message a).runOn s).2 = (a.runOn s).2 := by
  rw [wrapping, runOn_bind, runOn_attempt]
  rcases a.runOn s with ⟨(e | c) | x, t⟩ <;> rfl

def revokedLine (error subtype : Text) : Line :=
  .log ⟨.info, "reauth", "Revoked grant detected: " ++ error ++ "/" ++ subtype⟩

theorem runOn_resolve (c : Coordinator σ) (identifiers : List Text) (s : σ) :
    (c.resolve identifiers).runOn s =
      match (Resolver.resolve c.adapters identifiers).runOn s with
      | (.error (.helper e), t) =>
        match e.kind with
        | .revokedGrant error subtype =>
          (c.reauthenticate >>= fun _ => Resolver.resolve c.adapters identifiers).runOn
            (Journaled.note (revokedLine error subtype) t)
        | _ => (.error (.helper (unretrieved e)), t)
      | r => r := by
  rw [resolve, runOn_bind, runOn_attempt]
  rcases (Resolver.resolve c.adapters identifiers).runOn s with ⟨(e | cause) | token, t⟩
  · cases hkind : e.kind <;> simp only [hkind] <;> rfl
  · rfl
  · rfl

/-- Without a revoked grant a resolution is over after its first pass. -/
theorem state_resolve_of_not_revokes {c : Coordinator σ} {identifiers : List Text} {s : σ}
    (h : revokes ((Resolver.resolve c.adapters identifiers).runOn s).1 = false) :
    ((c.resolve identifiers).runOn s).2 =
      ((Resolver.resolve c.adapters identifiers).runOn s).2 := by
  rw [runOn_resolve]
  rcases hrun : (Resolver.resolve c.adapters identifiers).runOn s with ⟨(e | cause) | token, t⟩
  · rw [hrun, revokes_helper] at h
    dsimp only
    split
    · next hkind =>
      rw [hkind] at h
      cases h
    · rfl
  · rfl
  · rfl

/-- After a revoked grant the user logs in and the sources are tried once more. -/
theorem exists_runOn_resolve_of_revokes {c : Coordinator σ} {identifiers : List Text} {s : σ}
    (h : revokes ((Resolver.resolve c.adapters identifiers).runOn s).1 = true) :
    ∃ error subtype, (c.resolve identifiers).runOn s =
      (c.reauthenticate >>= fun _ => Resolver.resolve c.adapters identifiers).runOn
        (Journaled.note (revokedLine error subtype)
          ((Resolver.resolve c.adapters identifiers).runOn s).2) := by
  rw [runOn_resolve]
  rcases hrun : (Resolver.resolve c.adapters identifiers).runOn s with ⟨(e | cause) | token, t⟩
  · rw [hrun, revokes_helper] at h
    dsimp only
    split
    · next error subtype hkind => exact ⟨error, subtype, rfl⟩
    · next hkind =>
      cases hk : e.kind with
      | revokedGrant error subtype => exact absurd hk (hkind error subtype)
      | _ =>
        rw [hk] at h
        cases h
  · rw [hrun] at h
    cases h
  · rw [hrun] at h
    cases h

end Coordinator

namespace Settings

/-- Logging in again announces one login and asks the browser once, if there is a client. -/
theorem logins_reauthenticate (s : Settings) (store : CredentialStore) (w : World) :
    ((s.coordinator store).reauthenticate.runOn w).2.loginsAnnounced = w.loginsAnnounced + 1 ∧
      ((s.coordinator store).reauthenticate.runOn w).2.loginsAsked =
        w.loginsAsked + if s.clientId ≠ [] ∧ s.clientSecret ≠ [] then 1 else 0 := by
  have hrest (credential : StoredCredential) : Within KeepsLogins (do
      Coordinator.wrapping .persist "unable to persist access token" (store.save credential)
      Action.tell Coordinator.loginDone) := by
    refine (Coordinator.within_wrapping (store.keepsLogins_save credential)).bind fun _ v => ?_
    exact keepsLogins_note v (by decide)
  have hafter := Within.after (Coordinator.wrapping .authenticationFailed
    "unable to authenticate user" s.loginClient.logIn) hrest
    (Journaled.note (.status Coordinator.loginAnnounced) w)
  rw [Coordinator.state_wrapping] at hafter
  rw [Coordinator.reauthenticate, runOn_bind, runOn_tell]
  refine ⟨hafter.announced.trans ?_, hafter.asked.trans ?_⟩
  · rw [LoginClient.loginsAnnounced_logIn, loginsAnnounced_note, if_pos rfl]
  · rw [LoginClient.loginsAsked_logIn]
    rfl

theorem keepsLogins_resolve (s : Settings) (store : CredentialStore) (identifiers : List Text) :
    Within KeepsLogins (Resolver.resolve (s.adapters store) identifiers) :=
  within_keepsLogins_of_advances
    (Resolver.within_resolveFrom (fun _ _ => s.within_adapters store) none identifiers)

/-- A resolution logs in after a revoked grant and not otherwise: the second pass counts nothing. -/
theorem logins_resolve (s : Settings) (store : CredentialStore) (w : World) :
    let t := (((s.coordinator store).resolve s.tokenSources).runOn w).2
    if revokes ((Resolver.resolve (s.adapters store) s.tokenSources).runOn w).1 = true then
      t.loginsAnnounced = w.loginsAnnounced + 1 ∧
        t.loginsAsked = w.loginsAsked + if s.clientId ≠ [] ∧ s.clientSecret ≠ [] then 1 else 0
    else w.KeepsLogins t := by
  intro t
  have hpass := s.keepsLogins_resolve store s.tokenSources w
  split
  · next h =>
    obtain ⟨error, subtype, hrun⟩ : ∃ error subtype,
        ((s.coordinator store).resolve s.tokenSources).runOn w =
          ((s.coordinator store).reauthenticate >>= fun _ =>
            Resolver.resolve (s.adapters store) s.tokenSources).runOn
          (Journaled.note (Coordinator.revokedLine error subtype)
            ((Resolver.resolve (s.adapters store) s.tokenSources).runOn w).2) :=
      Coordinator.exists_runOn_resolve_of_revokes h
    have hnoticed : w.KeepsLogins (Journaled.note (Coordinator.revokedLine error subtype)
        ((Resolver.resolve (s.adapters store) s.tokenSources).runOn w).2) :=
      IsTrans.trans _ _ _ hpass (keepsLogins_note _ Line.noConfusion)
    generalize Journaled.note (Coordinator.revokedLine error subtype)
      ((Resolver.resolve (s.adapters store) s.tokenSources).runOn w).2 = v at hrun hnoticed
    have hlogin := s.logins_reauthenticate store v
    have hretry := Within.after (s.coordinator store).reauthenticate
      (fun _ => s.keepsLogins_resolve store s.tokenSources) v
    have ht : t = (((s.coordinator store).reauthenticate >>= fun _ =>
        Resolver.resolve (s.adapters store) s.tokenSources).runOn v).2 := congrArg Prod.snd hrun
    rw [ht, hretry.announced, hretry.asked, hlogin.1, hlogin.2, hnoticed.announced, hnoticed.asked]
    exact ⟨rfl, rfl⟩
  · next h =>
    have ht : t = ((Resolver.resolve (s.adapters store) s.tokenSources).runOn w).2 :=
      Coordinator.state_resolve_of_not_revokes ((Bool.not_eq_true _).mp h)
    rw [ht]
    exact hpass

end Settings

/-! ## One request -/

namespace Helper

def requestedLine (registry : Text) : Line :=
  .log ⟨.debug, "helper", "Credentials requested for " ++ registry⟩

theorem runOn_get (h : Helper) (registry : Text) (w : World) :
    (h.get registry).runOn w =
      (((h.coordinator.resolve h.tokenSources).runOn
          (Journaled.note (requestedLine registry) w)).1.bind
          fun token => (token.map (RegistryCredential.mk h.userName)).elim (.error noSources) .ok,
        ((h.coordinator.resolve h.tokenSources).runOn
          (Journaled.note (requestedLine registry) w)).2) := by
  rw [get, runOn_bind, runOn_log]
  dsimp only
  rw [runOn_bind, ← requestedLine]
  rcases (h.coordinator.resolve h.tokenSources).runOn (Journaled.note (requestedLine registry) w)
    with ⟨f | (_ | token), t⟩
  · rfl
  · rfl
  · rfl

/-- One request for a credential announces at most one login, and it announces one if and only if
the sources need it.  The browser is asked then if there is a client, and at most once. -/
theorem get_logs_in_iff (s : Settings) (store : CredentialStore) (registry : Text) (w : World)
    (hw : w.Foreign) :
    let t := (((ofSettings s store).get registry).runOn w).2
    let requested := (Journaled.note (requestedLine registry) w : World)
    t.loginsAnnounced ≤ w.loginsAnnounced + 1 ∧
      (w.loginsAnnounced < t.loginsAnnounced ↔ s.NeedsLogin store requested) ∧
      t.loginsAsked ≤ w.loginsAsked + 1 ∧
      (w.loginsAsked < t.loginsAsked ↔
        s.NeedsLogin store requested ∧ s.clientId ≠ [] ∧ s.clientSecret ≠ []) := by
  intro t requested
  have hrequested : requested.Foreign := hw.advances (advances_note w rfl)
  have ht : t = (((s.coordinator store).resolve s.tokenSources).runOn requested).2 :=
    congrArg Prod.snd (runOn_get (ofSettings s store) registry w)
  have hnote : w.KeepsLogins requested := keepsLogins_note w Line.noConfusion
  have hlogins := s.logins_resolve store requested
  dsimp only at hlogins
  rw [← ht] at hlogins
  rw [Settings.needsLogin_iff hrequested]
  by_cases hrevoked : s.GrantRevoked store requested
  · rw [if_pos ((Settings.grantRevoked_iff hrequested).2 hrevoked), hnote.announced,
      hnote.asked] at hlogins
    obtain ⟨hannounced, hasked⟩ := hlogins
    by_cases hclient : s.clientId ≠ [] ∧ s.clientSecret ≠ []
    · rw [if_pos hclient] at hasked
      exact ⟨by omega, iff_of_true (by omega) hrevoked, by omega,
        iff_of_true (by omega) ⟨hrevoked, hclient⟩⟩
    · rw [if_neg hclient] at hasked
      exact ⟨by omega, iff_of_true (by omega) hrevoked, by omega,
        iff_of_false (by omega) fun h => hclient h.2⟩
  · rw [if_neg fun h => hrevoked ((Settings.grantRevoked_iff hrequested).1 h)] at hlogins
    have hannounced := hlogins.announced.trans hnote.announced
    have hasked := hlogins.asked.trans hnote.asked
    exact ⟨by omega, iff_of_false (by omega) hrevoked, by omega,
      iff_of_false (by omega) fun h => hrevoked h.1⟩

/-- A world in which the library says once that the user has to log in again. -/
def lapsedWorld : World :=
  { World.bare with
    detections := ⟨[.ok ⟨false, .error (.foreign (.collaborator ⟨"RefreshError",
      [.data (Json.ofString "Reauthentication is needed. Please log in again.")]⟩))⟩],
      .error (.foreign .noHome)⟩ }

theorem foreign_lapsedWorld : lapsedWorld.Foreign where
  http := ⟨by simp [lapsedWorld, World.bare], fun f h => ⟨_, (Except.error.inj h).symm⟩⟩
  programs := ⟨by simp [lapsedWorld, World.bare], by simp [lapsedWorld, World.bare]⟩
  detections := by
    refine ⟨?_, fun f h => ⟨_, (Except.error.inj h).symm⟩, by simp [lapsedWorld]⟩
    intro detection hmem
    obtain rfl := List.mem_singleton.1 hmem
    refine ⟨by simp, ?_⟩
    rintro d hd f hf
    cases hd
    exact ⟨_, (Except.error.inj hf).symm⟩

def browserSettings : Settings :=
  { tokenSources := ["env"], clientId := "id", clientSecret := "secret" }

theorem grantRevoked_lapsedWorld (registry : Text) :
    browserSettings.GrantRevoked ⟨"/store.json"⟩
      (Journaled.note (requestedLine registry) lapsedWorld) :=
  ⟨[], "env", [], _, rfl, .nil _, .inr ⟨rfl, _, _, rfl, rfl, by decide,
    .inl ⟨_, List.mem_singleton.2 rfl, by decide⟩⟩⟩

theorem get_logs_in_lapsedWorld :
    lapsedWorld.Foreign ∧
      lapsedWorld.loginsAsked <
        (((ofSettings browserSettings ⟨"/store.json"⟩).get "https://gcr.io").runOn
          lapsedWorld).2.loginsAsked := by
  refine ⟨foreign_lapsedWorld, ?_⟩
  refine (get_logs_in_iff _ _ _ _ foreign_lapsedWorld).2.2.2.2 ⟨?_, by decide, by decide⟩
  exact (Settings.needsLogin_iff (foreign_lapsedWorld.advances (advances_note _ rfl))).2
    (grantRevoked_lapsedWorld _)

end Helper

end CredentialHelper
