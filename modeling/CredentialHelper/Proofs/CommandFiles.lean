import CredentialHelper.Proofs.FileChanges
import CredentialHelper.Proofs.LoginToken

/-!
# What commands do to files

A run changes the files by at most one operation on a file, which the request that it comes to and
its settings determine (`CommandLine.Effect`).  A request for a credential and a login have one only
if the user was asked in that run and the answer makes a credential.  Everything else that a run
does leaves the files alone (`World.Idles`).
-/

namespace CredentialHelper

open CredentialHelper.Action World FileTree

/-! ## Doing nothing to the files -/

namespace World

/-- The files stay, and so does what the one operation on them could depend on. -/
structure Idles (w t : World) : Prop where
  files : t.files = w.files
  environment : t.environment = w.environment
  accounts : t.accounts = w.accounts
  logins : t.logins = w.logins
  asked : t.loginsAsked = w.loginsAsked

theorem Idles.refl (w : World) : w.Idles w := ⟨rfl, rfl, rfl, rfl, rfl⟩

theorem Idles.trans {w t u : World} (h : w.Idles t) (h' : t.Idles u) : w.Idles u :=
  ⟨h'.files.trans h.files, h'.environment.trans h.environment, h'.accounts.trans h.accounts,
    h'.logins.trans h.logins, h'.asked.trans h.asked⟩

instance : Std.Refl Idles := ⟨Idles.refl⟩

instance : IsTrans World Idles := ⟨fun _ _ _ => Idles.trans⟩

theorem Advances.idles {w t : World} (h : w.Advances t) : w.Idles t :=
  ⟨h.files, h.environment, h.accounts, h.logins, h.keepsLogins.asked⟩

theorem idles_note (line : Line) (w : World) : w.Idles (Journaled.note line w) :=
  ⟨rfl, rfl, rfl, rfl, rfl⟩

theorem within_note (line : Line) : Within Idles (Action.note line) := idles_note line

theorem Idles.homes {w t : World} (h : w.Idles t) : t.homes = w.homes := by
  unfold World.homes World.environment?
  rw [h.environment, h.accounts]

end World

/-! ## Logging in and saving -/

namespace LoginClient

/-- Whether a login gives a credential is up to its answer. -/
theorem fst_logIn {w t : World} (h : t.logins = w.logins) (c : LoginClient) :
    (c.logIn.runOn t).1 = (c.logIn.runOn w).1 := by
  by_cases hclient : c.clientId ≠ [] ∧ c.clientSecret ≠ []
  · rw [runOn_logIn hclient.1 hclient.2, runOn_logIn hclient.1 hclient.2, h]
    rcases w.logins.head with f | grant
    · rfl
    · rw [answered]
      split <;> rfl
  · rw [runOn_logIn_of_unconfigured hclient,
      runOn_logIn_of_unconfigured hclient]

theorem files_logIn (c : LoginClient) (w : World) :
    (c.logIn.runOn w).2.files = w.files := by
  by_cases hclient : c.clientId ≠ [] ∧ c.clientSecret ≠ []
  · rw [runOn_logIn hclient.1 hclient.2]
    exact (c.within_answered w.logins.head (c.asked w)).files
  · rw [runOn_logIn_of_unconfigured hclient]

theorem asked_of_logIn {c : LoginClient} {w u : World} {credential : StoredCredential}
    (h : c.logIn.runOn w = (.ok credential, u)) : w.loginsAsked < u.loginsAsked := by
  have hcount := c.loginsAsked_logIn w
  rw [h] at hcount
  by_cases hclient : c.clientId ≠ [] ∧ c.clientSecret ≠ []
  · rw [if_pos hclient] at hcount
    exact Nat.lt_of_lt_of_eq (Nat.lt_succ_self _) hcount.symm
  · rw [runOn_logIn_of_unconfigured hclient] at h
    cases h

end LoginClient

theorem Settings.userFile_congr {w t : World} (henvironment : t.environment = w.environment)
    (hhomes : t.homes = w.homes) : userFile t = userFile w := by
  rw [userFile, userFile, hhomes, World.environment?, World.environment?, henvironment]

theorem UserFile.eq_of_checked {identifiers checked : List Text}
    (h : UserFile.checked identifiers = .ok checked) : checked = identifiers := by
  rw [UserFile.checked] at h
  cases hmapped : identifiers.mapM SourceKind.parse with
  | error e =>
    rw [hmapped] at h
    cases h
  | ok kinds =>
    rw [hmapped] at h
    exact (Except.ok.inj h).symm

/-! ## What leaves the files alone -/

namespace CommandLine

theorem within_reply (line : Text) : Within Idles (reply line) := by
  rw [reply]
  split
  · exact within_note _
  · exact within_fail _

theorem within_report (e : HelperError) : Within Idles (report e) := by
  refine (within_note _).bind fun _ => (within_reply _).bind fun _ => ?_
  induction e.suggestions with
  | nil => exact within_pure _
  | cons suggestion rest ih => exact (within_note _).bind fun _ => ih

/-- A relation that what leaves the files alone can neither break nor bring about. -/
structure Absorbs (T : World → World → Prop) : Prop where
  idle : ∀ w t, w.Idles t → T w t
  before : ∀ w u t, w.Idles u → T u t → T w t
  after : ∀ w u t, T w u → u.Idles t → T w t

theorem absorbs_idles : Absorbs Idles where
  idle _ _ := id
  before _ _ _ := Idles.trans
  after _ _ _ := Idles.trans

section

variable {T : World → World → Prop} {α β : Type}

theorem Absorbs.within (hT : Absorbs T) {a : Action World α} (h : Within Idles a) : Within T a :=
  h.of_imp hT.idle

theorem Absorbs.bind_after (hT : Absorbs T) {a : Action World α} {f : α → Action World β}
    (ha : Within T a) (hf : ∀ x, Within Idles (f x)) : Within T (a >>= f) := by
  intro w
  exact hT.after _ _ _ (ha w) (Within.after a hf w)

theorem Absorbs.bind_before (hT : Absorbs T) {a : Action World α} {f : α → Action World β}
    (ha : Within Idles a) (hf : ∀ x, Within T (f x)) : Within T (a >>= f) := by
  intro w
  have hw := ha w
  rw [runOn_bind]
  rcases hrun : a.runOn w with ⟨e | x, u⟩
  · rw [hrun] at hw
    exact hT.idle _ _ hw
  · rw [hrun] at hw
    exact hT.before _ _ _ hw (hf x u)

theorem within_afterAttempt (r : Except Failure Unit) : Within Idles (match r with
    | .ok () => return 0
    | .error (.helper e) => do
      report e
      return 1
    | .error f => Action.fail f : Action World Nat) := by
  rcases r with (e | c) | _
  · exact (within_report e).bind fun _ => within_pure _
  · exact within_fail _
  · exact within_pure _

theorem Absorbs.reporting (hT : Absorbs T) {a : Action World Unit} {w : World}
    (h : T w (a.runOn w).2) : T w ((reporting a).runOn w).2 :=
  hT.after _ _ _ h (Within.after a.attempt within_afterAttempt w)

theorem Absorbs.ending (hT : Absorbs T) {a : Action World Nat} (h : Within T a) :
    Within T (ending a) := by
  refine hT.bind_after h.attempt fun r => ?_
  split
  · exact within_pure _
  · split
    · exact (within_note _).bind fun _ => within_pure _
    · split
      · exact within_pure _
      · exact within_pure _

end

theorem within_endEarly (early : Early) : Within Idles (endEarly early) := by
  rcases early with form | form | ⟨_ | form, message⟩
  all_goals exact (within_note _).bind fun _ => within_pure _

/-! ## The one operation -/

def Request.LogsIn : Request → Prop
  | .get | .logIn => True
  | _ => False

def Effect (s : Settings) (w : World) (files : FileTree) : Request → Prop
  | .get | .logIn =>
    ∃ c store, s.store w.homes = .ok store ∧ (s.loginClient.logIn.runOn w).1 = .ok c ∧
      files = (StoreFile.save w.files store.path c).1
  | .logOut =>
    ∃ store, s.store w.homes = .ok store ∧ files = (StoreFile.remove w.files store.path).1
  | .setSources text =>
    ∃ path, Settings.userFile w = .ok path ∧
      files = (UserFile.setSources w.files path (UserFile.identifiers text)).1
  | .unsetAll =>
    ∃ path, Settings.userFile w = .ok path ∧ files = (UserFile.remove w.files path).1
  | .list | .store | .erase | .version => False

/-- The files stay, or they become what the request makes of them, if need be after a login. -/
def Touches (s : Settings) (request : Request) (w t : World) : Prop :=
  t.files = w.files ∨
    Effect s w t.files request ∧ (request.LogsIn → w.loginsAsked < t.loginsAsked)

theorem effect_of_idles {s : Settings} {request : Request} {w t : World} {files : FileTree}
    (h : w.Idles t) (heffect : Effect s t files request) : Effect s w files request := by
  cases request with
  | get | logIn | logOut | setSources | unsetAll =>
    simpa only [Effect, h.homes, h.files, LoginClient.fst_logIn h.logins,
      Settings.userFile_congr h.environment h.homes] using heffect
  | list | store | erase | version => exact heffect

theorem absorbs_touches (s : Settings) (request : Request) : Absorbs (Touches s request) where
  idle w t h := .inl h.files
  before w u t h h' := by
    rcases h' with hfiles | ⟨heffect, hasked⟩
    · exact .inl (hfiles.trans h.files)
    · exact .inr ⟨effect_of_idles h heffect, fun hlogin => h.asked ▸ hasked hlogin⟩
  after w u t h h' := by
    rw [Touches, h'.files, h'.asked]
    exact h

variable {s : Settings} {store : CredentialStore} {w : World}

/-- What a login that gives a credential and the saving of it come to. -/
theorem touches_save {request : Request} (hrequest : request = .get ∨ request = .logIn)
    {c : StoredCredential} {u : World} (hstore : s.store w.homes = .ok store)
    (hlogin : s.loginClient.logIn.runOn w = (.ok c, u)) :
    Touches s request w ((store.save c).runOn u).2 := by
  have hasked : w.loginsAsked < ((store.save c).runOn u).2.loginsAsked :=
    (store.keepsLogins_save c u).asked.symm ▸ LoginClient.asked_of_logIn hlogin
  have hfiles := s.loginClient.files_logIn w
  rw [hlogin] at hfiles
  have heffect : ∃ c' store', s.store w.homes = .ok store' ∧
      (s.loginClient.logIn.runOn w).1 = .ok c' ∧
      ((store.save c).runOn u).2.files = (StoreFile.save w.files store'.path c').1 :=
    ⟨c, store, hstore, by rw [hlogin], by rw [CredentialStore.files_save, hfiles]⟩
  rcases hrequest with rfl | rfl
  · exact .inr ⟨heffect, fun _ => hasked⟩
  · exact .inr ⟨heffect, fun _ => hasked⟩

theorem touches_reauthenticate (hstore : s.store w.homes = .ok store) :
    Touches s .get w ((s.coordinator store).reauthenticate.runOn w).2 := by
  have hannounced := idles_note (.status Coordinator.loginAnnounced) w
  refine (absorbs_touches s .get).before _ _ _ hannounced ?_
  rw [← hannounced.homes] at hstore
  rw [Coordinator.reauthenticate, runOn_bind, runOn_tell]
  generalize Journaled.note (.status Coordinator.loginAnnounced) w = v at hstore
  dsimp only
  rw [runOn_bind]
  rcases hlogin : (Coordinator.wrapping .authenticationFailed "unable to authenticate user"
    (s.coordinator store).login).runOn v with ⟨f | c, u⟩
  · have hstate := Coordinator.state_wrapping .authenticationFailed "unable to authenticate user"
      s.loginClient.logIn v
    have hfiles := s.loginClient.files_logIn v
    rw [← hstate] at hfiles
    left
    exact (congrArg (fun r => r.2.files) hlogin).symm.trans hfiles
  · have hsave := touches_save (.inl rfl) hstore (Coordinator.wrapping_eq_ok hlogin)
    rw [← Coordinator.state_wrapping .persist "unable to persist access token"] at hsave
    refine (absorbs_touches s .get).after _ _ _ hsave ?_
    exact Within.after _ (fun _ => within_note _) u

theorem touches_get (hstore : s.store w.homes = .ok store) (registry : Text) :
    Touches s .get w (((Helper.ofSettings s store).get registry).runOn w).2 := by
  have hrequested := idles_note (Helper.requestedLine registry) w
  have hpass (w : World) :
      w.Idles ((Resolver.resolve (s.adapters store) s.tokenSources).runOn w).2 :=
    (Resolver.within_resolveFrom (fun _ _ => s.within_adapters store) none s.tokenSources w).idles
  refine (absorbs_touches s .get).before _ _ _ hrequested ?_
  rw [← hrequested.homes] at hstore
  rw [Helper.runOn_get]
  generalize Journaled.note (Helper.requestedLine registry) w = v at hstore
  by_cases hrevoked :
      revokes ((Resolver.resolve (s.adapters store) s.tokenSources).runOn v).1 = true
  · obtain ⟨error, subtype, hrun⟩ : ∃ error subtype,
        ((s.coordinator store).resolve s.tokenSources).runOn v =
          ((s.coordinator store).reauthenticate >>= fun _ =>
            Resolver.resolve (s.adapters store) s.tokenSources).runOn
          (Journaled.note (Coordinator.revokedLine error subtype)
            ((Resolver.resolve (s.adapters store) s.tokenSources).runOn v).2) :=
      Coordinator.exists_runOn_resolve_of_revokes hrevoked
    have hnoticed := (hpass v).trans (idles_note (Coordinator.revokedLine error subtype) _)
    have hagain := Within.after (s.coordinator store).reauthenticate (fun _ => hpass)
      (Journaled.note (Coordinator.revokedLine error subtype)
        ((Resolver.resolve (s.adapters store) s.tokenSources).runOn v).2)
    rw [← hnoticed.homes] at hstore
    refine (absorbs_touches s .get).before _ _ _ hnoticed ?_
    show Touches s .get _ (((s.coordinator store).resolve s.tokenSources).runOn v).2
    rw [hrun]
    exact (absorbs_touches s .get).after _ _ _ (touches_reauthenticate hstore) hagain
  · refine (absorbs_touches s .get).idle _ _ ?_
    show v.Idles (((s.coordinator store).resolve s.tokenSources).runOn v).2
    have hstate : (((s.coordinator store).resolve s.tokenSources).runOn v).2 =
        ((Resolver.resolve (s.adapters store) s.tokenSources).runOn v).2 :=
      Coordinator.state_resolve_of_not_revokes ((Bool.not_eq_true _).mp hrevoked)
    rw [hstate]
    exact hpass v

/-! ## Requests -/

theorem runOn_makeStore (s : Settings) (w : World) :
    (makeStore s).runOn w =
      ((s.store w.homes).mapError fun e => .foreign (.fileName e), w) := rfl

/-- What follows the making of the store starts from the store that the settings name. -/
theorem touches_bind_makeStore {request : Request} {α : Type} {f : CredentialStore → Action World α}
    (h : ∀ store, s.store w.homes = .ok store → Touches s request w ((f store).runOn w).2) :
    Touches s request w ((makeStore s >>= f).runOn w).2 := by
  rw [runOn_bind, runOn_makeStore]
  cases hstore : s.store w.homes with
  | error e => exact .inl rfl
  | ok store => exact h store hstore

theorem within_makeHelper (s : Settings) : Within Idles (makeHelper s) := by
  have hstore : Within Idles (makeStore s) := fun w => by
    rw [runOn_makeStore]
    exact .refl w
  exact hstore.bind fun _ => (within_note _).bind fun _ => within_pure _

theorem touches_answerGet (s : Settings) (input : Bytes) :
    Within (Touches s .get) (answerGet s input) := by
  have habsorbs := absorbs_touches s .get
  refine habsorbs.bind_before (within_ofExcept _) fun registry w => habsorbs.reporting ?_
  rw [makeHelper, bind_assoc]
  refine touches_bind_makeStore fun store hstore => ?_
  have hcreated := idles_note
    (.log ⟨.debug, "helper", "Credential helper created with " ++ s.summary⟩) w
  rw [Helper.create, bind_assoc, runOn_bind, runOn_log]
  refine habsorbs.before _ _ _ hcreated ?_
  rw [← hcreated.homes] at hstore
  rw [pure_bind]
  exact habsorbs.after _ _ _ (touches_get hstore registry)
    (Within.after _ (fun _ => within_reply _) _)

theorem within_answerStore (s : Settings) (input : Bytes) :
    Within Idles (answerStore s input) := by
  refine (within_ofExcept _).bind fun payload => (within_makeHelper s).attempt.bind fun made => ?_
  split
  · exact within_fail _
  · exact fun w => absorbs_idles.reporting (within_fail _ w)
  · exact (within_note _).bind fun _ => within_pure _
  · exact within_fail _

/-- What follows the reading of the path of the configuration file starts from that path. -/
theorem touches_bind_userFile {request : Request} {α : Type} {f : Text → Action World α}
    (h : ∀ path, Settings.userFile w = .ok path → Touches s request w ((f path).runOn w).2) :
    Touches s request w ((userFile >>= f).runOn w).2 := by
  have hrun : userFile.runOn w =
      ((Settings.userFile w).mapError fun e => .foreign (.fileName e), w) := rfl
  rw [runOn_bind, hrun]
  cases hpath : Settings.userFile w with
  | error e => exact .inl rfl
  | ok path => exact h path hpath

theorem touches_answerSetSources (s : Settings) (text : Text) :
    Within (Touches s (.setSources text)) (answerSetSources text) := by
  intro w
  have habsorbs := absorbs_touches s (.setSources text)
  refine touches_bind_userFile fun path hpath => habsorbs.reporting ?_
  rw [runOn_bind, runOn_ofExcept]
  cases hchecked : UserFile.checked (UserFile.identifiers text) with
  | error e => exact .inl rfl
  | ok sources =>
    obtain rfl := UserFile.eq_of_checked hchecked
    refine habsorbs.after _ _ _ (.inr ⟨⟨path, hpath, ?_⟩, nofun⟩)
      (Within.after _ (fun _ => within_note _) w)
    rfl

theorem touches_perform (s : Settings) (input : Bytes) (request : Request) :
    Within (Touches s request) (perform s input request) := by
  have habsorbs := absorbs_touches s request
  cases request with
  | get => exact touches_answerGet s input
  | list =>
    refine fun w => habsorbs.reporting (habsorbs.within ?_ w)
    exact (within_makeHelper s).bind fun _ => (within_fail _).bind fun _ => within_reply _
  | store => exact habsorbs.within (within_answerStore s input)
  | erase =>
    refine fun w => habsorbs.reporting (habsorbs.within ?_ w)
    exact (within_makeHelper s).bind fun _ => (within_ofExcept _).bind fun _ => within_fail _
  | version => exact habsorbs.within ((within_reply _).bind fun _ => within_pure _)
  | setSources text => exact touches_answerSetSources s text
  | unsetAll =>
    intro w
    refine touches_bind_userFile fun path hpath => ?_
    refine habsorbs.after _ _ _ (.inr ⟨⟨path, hpath, ?_⟩, nofun⟩)
      (Within.after _ (fun _ => (within_note _).bind fun _ => within_pure _) w)
    rfl
  | logIn =>
    refine fun w => habsorbs.reporting ?_
    have hfiles := s.loginClient.files_logIn w
    rw [runOn_bind]
    rcases hlogin : s.loginClient.logIn.runOn w with ⟨f | c, u⟩
    · rw [hlogin] at hfiles
      exact .inl hfiles
    · rw [hlogin] at hfiles
      obtain ⟨-, -, hhomes⟩ := LoginClient.logIn_eq_ok hlogin
      dsimp only
      rw [runOn_bind, runOn_makeStore, hhomes]
      cases hstore : s.store w.homes with
      | error e => exact .inl hfiles
      | ok store =>
        exact habsorbs.after _ _ _ (touches_save (.inr rfl) hstore hlogin)
          (Within.after _ (fun _ => within_note _) u)
  | logOut =>
    refine fun w => habsorbs.reporting ?_
    refine touches_bind_makeStore fun store hstore => ?_
    refine habsorbs.after _ _ _ (.inr ⟨⟨store, hstore, ?_⟩, nofun⟩)
      (Within.after _ (fun _ => within_note _) w)
    exact store.files_delete w

/-! ## Runs -/

/-- The request that a run comes to, with its settings; none if it ends before one. -/
def requested? (arguments : List Text) (w : World) : Option (Settings × Request) :=
  match readVerb arguments with
  | .error _ => none
  | .ok (verb, rest) =>
    match settings w, readRequest verb rest with
    | .ok s, .ok request => some (s, request)
    | _, _ => none

/-- What a run can do, given the request that it comes to. -/
def Does : Option (Settings × Request) → World → World → Prop
  | none => Idles
  | some (s, request) => Touches s request

theorem absorbs_does (requested : Option (Settings × Request)) : Absorbs (Does requested) := by
  cases requested with
  | none => exact absorbs_idles
  | some p => exact absorbs_touches p.1 p.2

theorem within_plan (arguments : List Text) (input : Bytes) (w : World) :
    Within (Does (requested? arguments w)) (plan arguments input w).2 := by
  rw [requested?, plan]
  cases readVerb arguments with
  | error early => exact within_endEarly early
  | ok read =>
    obtain ⟨verb, rest⟩ := read
    dsimp only
    cases settings w with
    | error f => exact fun w => absorbs_idles.reporting (within_fail _ w)
    | ok s =>
      dsimp only
      rw [runVerb]
      cases readRequest verb rest with
      | error early => exact within_endEarly early
      | ok request => exact touches_perform s input request

theorem Absorbs.run {T : World → World → Prop} (hT : Absorbs T) {arguments : List Text}
    {input : Bytes} {w : World} (h : Within T (plan arguments input w).2) :
    T w (run arguments input w).2 := by
  have hjournal : w.Idles { w with journal := [] } := ⟨rfl, rfl, rfl, rfl, rfl⟩
  exact hT.before _ _ _ hjournal (hT.ending h _)

theorem run_does (arguments : List Text) (input : Bytes) (w : World) :
    Does (requested? arguments w) w (run arguments input w).2 :=
  (absorbs_does (requested? arguments w)).run (within_plan arguments input w)

def LoggedIn (s : Settings) (w t : World) : Prop :=
  w.loginsAsked < t.loginsAsked ∧ ∃ c, (s.loginClient.logIn.runOn w).1 = .ok c

/-- What a run may have done to the files, by the request that it came to: a request for a
credential and a login may have saved what a login gave, a logout may have written the store file,
and a change of the configuration its own file. -/
def Permits (w t : World) : Option (Settings × Request) → Prop
  | some (s, .get) | some (s, .logIn) =>
    t.files = w.files ∨ LoggedIn s w t ∧ ∃ store, s.store w.homes = .ok store ∧
      (Path.Plain store.path → ChangesNear (StoreFile.places store.path) w.files t.files)
  | some (s, .logOut) =>
    t.files = w.files ∨ ∃ store, s.store w.homes = .ok store ∧
      (Path.Plain store.path → ChangesOnly (StoreFile.places store.path) w.files t.files)
  | some (_, .setSources _) | some (_, .unsetAll) =>
    t.files = w.files ∨ ∃ path, Settings.userFile w = .ok path ∧
      (Path.Plain path → ChangesNear [placeOf path] w.files t.files)
  | some (_, .list) | some (_, .store) | some (_, .erase) | some (_, .version) | none =>
    t.files = w.files

theorem permits_of_touches {request : Request} {t : World} (h : Touches s request w t) :
    Permits w t (some (s, request)) := by
  cases request with
  | get | logIn =>
    rcases h with hfiles | ⟨⟨c, store, hstore, hlogin, hfiles⟩, hasked⟩
    · exact .inl hfiles
    · refine .inr ⟨⟨hasked trivial, c, hlogin⟩, store, hstore, fun hplain => ?_⟩
      rw [hfiles]
      exact StoreFile.changesNear_save hplain c
  | logOut =>
    rcases h with hfiles | ⟨⟨store, hstore, hfiles⟩, -⟩
    · exact .inl hfiles
    · refine .inr ⟨store, hstore, fun hplain => ?_⟩
      rw [hfiles]
      exact StoreFile.changesOnly_erase hplain
  | setSources text =>
    rcases h with hfiles | ⟨⟨path, hpath, hfiles⟩, -⟩
    · exact .inl hfiles
    · refine .inr ⟨path, hpath, fun hplain => ?_⟩
      rw [hfiles]
      exact UserFile.changesNear_setSources hplain _
  | unsetAll =>
    rcases h with hfiles | ⟨⟨path, hpath, hfiles⟩, -⟩
    · exact .inl hfiles
    · refine .inr ⟨path, hpath, fun hplain => ?_⟩
      rw [hfiles]
      exact (UserFile.changesOnly_remove hplain.straight).changesNear
  | list | store | erase | version => exact h.elim id fun heffect => heffect.1.elim

theorem run_permits (arguments : List Text) (input : Bytes) (w : World) :
    Permits w (run arguments input w).2 (requested? arguments w) := by
  have hdoes := run_does arguments input w
  rcases hrequested : requested? arguments w with _ | ⟨s, request⟩
  · rw [hrequested] at hdoes
    exact hdoes.files
  · rw [hrequested] at hdoes
    exact permits_of_touches hdoes

/-! ## Sessions -/

/-- A call of the command line, with everything that is around it except the files. -/
structure Call where
  arguments : List Text
  input : Bytes
  world : World

namespace Call

def begins (c : Call) (files : FileTree) : World := { c.world with files }

def ends (c : Call) (files : FileTree) : World := (run c.arguments c.input (c.begins files)).2

def request? (c : Call) (files : FileTree) : Option (Settings × Request) :=
  requested? c.arguments (c.begins files)

/-- The call changes no configuration and does not log out, and no login gave it a credential. -/
def Spares (c : Call) (files : FileTree) : Prop :=
  match c.request? files with
  | some (s, .get) | some (s, .logIn) => ¬LoggedIn s (c.begins files) (c.ends files)
  | some (_, .logOut) | some (_, .setSources _) | some (_, .unsetAll) => False
  | some (_, .list) | some (_, .store) | some (_, .erase) | some (_, .version) | none => True

def filesAfter (files : FileTree) (calls : List Call) : FileTree :=
  calls.foldl (fun files c => (c.ends files).files) files

theorem files_of_spares {c : Call} {files : FileTree} (h : c.Spares files) :
    (c.ends files).files = files := by
  have hpermits := run_permits c.arguments c.input (c.begins files)
  rw [Spares, request?] at h
  rcases hrequested : requested? c.arguments (c.begins files) with _ | ⟨s, request⟩
  · rw [hrequested] at hpermits
    exact hpermits
  · rw [hrequested] at hpermits h
    cases request with
    | get | logIn => exact hpermits.resolve_right fun hlogged => h hlogged.1
    | logOut | setSources | unsetAll => exact h.elim
    | list | store | erase | version => exact hpermits

/-- In every session each call does to the files only what it is permitted to do, and a session of
calls that spare the files leaves all of them exactly as they were. -/
theorem session_permits (files : FileTree) (calls : List Call) :
    (∀ before c after, calls = before ++ c :: after →
      Permits (c.begins (filesAfter files before)) (c.ends (filesAfter files before))
        (c.request? (filesAfter files before))) ∧
    ((∀ before c after, calls = before ++ c :: after → c.Spares (filesAfter files before)) →
      filesAfter files calls = files) := by
  constructor
  · intro before c after _
    exact run_permits c.arguments c.input _
  · induction calls generalizing files with
    | nil =>
      intro _
      rfl
    | cons c calls ih =>
      intro hspares
      have hfirst : (c.ends files).files = files := files_of_spares (hspares [] c calls rfl)
      have hrest : filesAfter files (c :: calls) = filesAfter files calls := by
        rw [filesAfter, List.foldl_cons, hfirst]
        rfl
      rw [hrest]
      refine ih files fun before c' after hcalls => ?_
      have hspare := hspares (c :: before) c' after (by rw [hcalls, List.cons_append])
      rw [filesAfter, List.foldl_cons, hfirst] at hspare
      exact hspare

end Call

end CommandLine

end CredentialHelper
