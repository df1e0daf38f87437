import CredentialHelper.Proofs.Reauthentication

/-!
# How a request fails

A source fails with an error of one level, or with one of the program that prints a token, around
which it puts a level of its own.  A login and the saving of what it gave have an error each.  The
resolution adds at most one level to any of these, and everything else comes from outside
(`Helper.ends_get_fails`).
-/

namespace CredentialHelper

open CredentialHelper.Action World

/-- No collaborator reports an error of the helper as its own, and neither does the browser. -/
structure World.AllForeign (w : World) : Prop where
  sources : w.Foreign
  logins : w.logins.All fun answer => ∀ f, answer = .error f → f.IsForeign

/-! ## Actions with known failures -/

/-- Every failure of an outcome has a property, and so has its value. -/
def Clears {α : Type} (P : Failure → Prop) (r : Except Failure α)
    (Q : α → Prop := fun _ => True) : Prop :=
  (∀ x, r = .ok x → Q x) ∧ ∀ f, r = .error f → P f

/-- Where all failures of collaborators come from outside, so do those that are left afterwards, and
the outcome of the action has known failures and values. -/
def Ends {α : Type} (P : Failure → Prop) (a : Action World α)
    (Q : α → Prop := fun _ => True) : Prop :=
  ∀ w, w.AllForeign → (a.runOn w).2.AllForeign ∧ Clears P (a.runOn w).1 Q

section

variable {α β : Type} {P P' : Failure → Prop} {Q : α → Prop} {R : β → Prop}

theorem clears_ok {x : α} (h : Q x) : Clears P (.ok x) Q := by
  refine ⟨fun y hy => ?_, nofun⟩
  cases hy
  exact h

theorem clears_error {f : Failure} (h : P f) : Clears P (.error f) Q := by
  refine ⟨nofun, fun g hg => ?_⟩
  cases hg
  exact h

theorem ends_ofExcept {r : Except Failure α} (h : Clears P r Q) : Ends P (Action.ofExcept r) Q :=
  fun _ hw => ⟨hw, h⟩

theorem ends_pure {x : α} (h : Q x) : Ends P (pure x) Q := ends_ofExcept (clears_ok h)

theorem ends_fail {f : Failure} (h : P f) : Ends P (fail f : Action World α) Q :=
  ends_ofExcept (clears_error h)

theorem ends_note (line : Line) : Ends P (Action.note line : Action World Unit) := fun _ hw =>
  ⟨⟨⟨hw.sources.http, hw.sources.programs, hw.sources.detections⟩, hw.logins⟩, clears_ok trivial⟩

theorem ends_get : Ends P (get : Action World World) :=
  fun _ hw => ⟨hw, clears_ok trivial⟩

theorem Ends.mono {a : Action World α} (h : Ends P a Q) (hP : ∀ f, P f → P' f) : Ends P' a Q := by
  intro w hw
  obtain ⟨hleft, hvalue, herror⟩ := h w hw
  exact ⟨hleft, hvalue, fun f hf => hP f (herror f hf)⟩

theorem Ends.attempt {a : Action World α} (h : Ends P a Q) :
    Ends P' (Action.attempt a) fun r => Clears P r Q := by
  intro w hw
  obtain ⟨hleft, hclears⟩ := h w hw
  exact ⟨hleft, clears_ok hclears⟩

theorem Ends.bind {a : Action World α} {f : α → Action World β} (ha : Ends P a Q)
    (hf : ∀ x, Q x → Ends P (f x) R) : Ends P (a >>= f) R := by
  intro w hw
  obtain ⟨hleft, hvalue, herror⟩ := ha w hw
  rw [runOn_bind]
  rcases hrun : a.runOn w with ⟨e | x, t⟩
  · rw [hrun] at hleft herror
    exact ⟨hleft, clears_error (herror e rfl)⟩
  · rw [hrun] at hleft hvalue
    exact hf x (hvalue x rfl) t hleft

theorem Ends.map {a : Action World α} (h : Ends P a Q) {f : α → β} (hf : ∀ x, Q x → R (f x)) :
    Ends P (f <$> a) R := by
  intro w hw
  obtain ⟨hleft, hvalue, herror⟩ := h w hw
  rw [runOn_map]
  rcases hrun : a.runOn w with ⟨e | x, t⟩
  · rw [hrun] at hleft herror
    exact ⟨hleft, clears_error (herror e rfl)⟩
  · rw [hrun] at hleft hvalue
    exact ⟨hleft, clears_ok (hf x (hvalue x rfl))⟩

theorem ends_onFiles {f : FileTree → FileTree × Except Failure α}
    (h : ∀ files, Clears P (f files).2 Q) : Ends P (onFiles f) Q := fun w hw =>
  ⟨⟨⟨hw.sources.http, hw.sources.programs, hw.sources.detections⟩, hw.logins⟩, h w.files⟩

end

/-! ## Requests to collaborators -/

section

variable {P : Failure → Prop}

theorem ends_send (event : Event) : Ends Failure.IsForeign (send event) := by
  intro w hw
  have hhttp := hw.sources.http
  exact ⟨⟨⟨hhttp.later (.tail _), hw.sources.programs, hw.sources.detections⟩, hw.logins⟩,
    fun _ _ => trivial, hhttp.head⟩

theorem ends_start (argv : List Text) (timeout : Option Quantity) :
    Ends P (start argv timeout) fun run => ∀ f, run = .failed f → f.IsForeign := by
  intro w hw
  have hprograms := hw.sources.programs
  exact ⟨⟨⟨hw.sources.http, hprograms.later (.tail _), hw.sources.detections⟩, hw.logins⟩,
    clears_ok hprograms.head⟩

theorem ends_detect (scopes : List Text) :
    Ends Failure.IsForeign (detect scopes) fun d => ∀ f, d.refresh = .error f → f.IsForeign := by
  intro w hw
  have hdetections := hw.sources.detections
  exact ⟨⟨⟨hw.sources.http, hw.sources.programs, hdetections.later (.tail _)⟩, hw.logins⟩,
    hdetections.head.2, hdetections.head.1⟩

theorem ends_askLogin (r : LoginRequest) : Ends Failure.IsForeign (askLogin r) := by
  intro w hw
  exact ⟨⟨⟨hw.sources.http, hw.sources.programs, hw.sources.detections⟩,
    hw.logins.later (.tail _)⟩, fun _ _ => trivial, hw.logins.head⟩

end

/-! ## Errors of one level -/

def ErrorKind.isUnknownSource : ErrorKind → Bool
  | .unknownSource _ => true
  | _ => false

namespace Failure

/-- A failure from outside, or an error of one level that has a property. -/
inductive Single (p : ErrorEntry → Prop) : Failure → Prop
  | foreign (c : Cause) : Single p (.foreign c)
  | level {entry : ErrorEntry} (h : p entry) (cause : Option Cause) :
    Single p (.helper (.root entry cause))

variable {p : ErrorEntry → Prop} {f : Failure}

theorem IsForeign.single (h : f.IsForeign) : f.Single p := by
  obtain ⟨c, rfl⟩ := h
  exact .foreign c

theorem IsForeign.single_because {entry : ErrorEntry} (h : f.IsForeign) (hentry : p entry) :
    (Failure.helper (.because entry f)).Single p := by
  obtain ⟨c, rfl⟩ := h
  exact .level hentry (some c)

end Failure

def ErrorEntry.Known (entry : ErrorEntry) : Prop := entry.kind.isUnknownSource = false

open Failure (Single)

-- with `.level` alone a proof by `rfl` would be read as one about the entry itself
theorem single_known {entry : ErrorEntry} (h : entry.kind.isUnknownSource = false)
    (cause : Option Cause) : Single ErrorEntry.Known (.helper (.root entry cause)) := .level h cause

/-! ## The ambient source -/

theorem Refusal.single_classify {message : Text} {body : Argument} {cause : Failure}
    {fallback : ErrorKind} {e : HelperError} (hcause : cause.IsForeign)
    (hfallback : fallback.isUnknownSource = false)
    (h : classify message body cause fallback = .ok e) :
    Single ErrorEntry.Known (.helper e) := by
  rw [classify] at h
  cases hdecode : decode body with
  | error c =>
    rw [hdecode] at h
    cases h
  | ok decoded =>
    rw [hdecode] at h
    cases decoded with
    | none =>
      cases h
      exact hcause.single_because hfallback
    | some members =>
      simp only [bind, Except.bind] at h
      split at h
      · cases h
        exact hcause.single_because rfl
      · cases h
        exact hcause.single_because hfallback

namespace AmbientSource

theorem single_refreshFailure (e : CollaboratorError) :
    Single ErrorEntry.Known (refreshFailure e) := by
  rw [refreshFailure]
  split
  · exact single_known rfl _
  · split
    · next error h =>
      cases hbody : firstBody e.held with
      | error c =>
        rw [hbody] at h
        cases h
      | ok body =>
        rw [hbody] at h
        exact Refusal.single_classify ⟨_, rfl⟩ rfl h
    · exact .foreign _

theorem single_fetchFailure {f : Failure} (h : f.IsForeign) :
    Single ErrorEntry.Known (fetchFailure f) := by
  obtain ⟨c, rfl⟩ := h
  cases c with
  | collaborator e =>
    rw [fetchFailure]
    split
    · exact single_refreshFailure e
    · split
      · exact single_known rfl _
      · exact .foreign _
  | _ => exact .foreign _

theorem single_detectionFailure {f : Failure} (h : f.IsForeign) :
    Single ErrorEntry.Known (detectionFailure f) := by
  obtain ⟨c, rfl⟩ := h
  cases c with
  | collaborator e =>
    rw [detectionFailure]
    split
    · exact single_known rfl _
    · exact .foreign _
  | _ => exact .foreign _

theorem clears_accept (token : Option Token) (now : Instant) :
    Clears (Single ErrorEntry.Known) (accept token now) := by
  rw [accept.eq_def]
  dsimp only
  split
  · exact clears_error (single_known rfl none)
  · split
    · exact clears_error (.foreign _)
    · exact clears_error (single_known rfl none)
    · split
      · exact clears_ok trivial
      · exact clears_error (single_known rfl none)

theorem isForeign_of_token {d : Detected} {f : Failure}
    (h : ∀ f, d.refresh = .error f → f.IsForeign) (hf : d.token = .error f) : f.IsForeign := by
  rw [Detected.token] at hf
  split at hf
  · next hrefresh =>
    cases hf
    exact h f hrefresh
  · split at hf
    · cases hf
    · split at hf
      · cases hf
      · cases hf
        exact ⟨_, rfl⟩

theorem ends_resolve (scopes : List Text) :
    Ends (Single ErrorEntry.Known) (resolve defaultDetector scopes) := by
  intro w hw
  obtain ⟨hleft, hdetected, hfailed⟩ := ends_detect scopes w hw
  rw [runOn_resolve]
  refine ⟨hleft, ?_⟩
  have hhead : ((detect scopes).runOn w).1 = w.detections.head := rfl
  rw [hhead] at hdetected hfailed
  cases hanswer : w.detections.head with
  | error f => exact clears_error (single_detectionFailure (hfailed f hanswer))
  | ok d =>
    dsimp only
    cases htoken : d.token with
    | error f =>
      exact clears_error (single_fetchFailure (isForeign_of_token (hdetected d hanswer) htoken))
    | ok token => exact clears_accept _ _

end AmbientSource

/-! ## The gcloud source -/

inductive Command.Fails (c : Command) : Failure → Prop
  | foreign (cause : Cause) : c.Fails (.foreign cause)
  | cannotRun (cause : Cause) : c.Fails (c.cannotRun cause)
  /-- The program ended with a failure or took too long, and there is nothing to suggest. -/
  | ended (message : Text) (context : Members) (cause : Cause) :
    c.Fails (.helper (.root ⟨.externalTool, message, [], context⟩ (some cause)))

theorem Command.clears_output {c : Command} {argv : List Text} {run : ProgramRun}
    (h : ∀ f, run = .failed f → f.IsForeign) : Clears c.Fails (c.output argv run) := by
  cases run with
  | ended status stdout stderr =>
    rw [output]
    split
    · exact clears_ok trivial
    · exact clears_error (.ended _ _ _)
  | timedOut => exact clears_error (.ended _ _ _)
  | absent => exact clears_error (.cannotRun _)
  | failed f =>
    obtain ⟨cause, rfl⟩ := h f rfl
    cases cause with
    | collaborator e =>
      refine clears_error ?_
      split
      · exact .cannotRun _
      · exact .foreign _
    | _ => exact clears_error (.foreign _)

theorem GcloudSource.clears_tokenOf (stdout : Bytes) :
    Clears (Single ErrorEntry.Known) (tokenOf stdout) := by
  rw [tokenOf]
  split
  · exact clears_error (single_known rfl none)
  · exact clears_ok trivial

/-! ## The store source -/

namespace StoreFile

theorem clears_read (tree : FileTree) (path : Text) :
    Clears (Single ErrorEntry.Known) (StoreFile.read tree path) := by
  rw [StoreFile.read_def]
  split
  · split
    · next e h =>
      refine clears_error ?_
      rw [readError.eq_def] at h
      split at h
      · split at h <;> (cases h; exact single_known rfl _)
      · cases h
        exact single_known rfl _
      · cases h
    · exact clears_error (.foreign _)
  · exact clears_ok trivial
  · exact clears_error (single_known rfl none)

theorem clears_credential (path : Text) (members : Members) :
    Clears (Single ErrorEntry.Known) (StoreFile.credential path members) := by
  rw [StoreFile.credential]
  split
  · exact clears_error (single_known rfl none)
  · split
    · exact clears_ok trivial
    · exact clears_error (single_known rfl _)

end StoreFile

namespace Refresh

theorem ends_answer (timeout : Int) (c : StoredCredential) :
    Ends (Single ErrorEntry.Known) (answer timeout c) := by
  have hunanswered (cause : Cause) : Single ErrorEntry.Known (if isReported cause = true then
      refused c "oauth2: cannot fetch token" (some cause) else .foreign cause) := by
    split
    · exact single_known rfl _
    · exact .foreign _
  rw [answer]
  split
  · exact ends_fail (hunanswered _)
  · refine (ends_send _).attempt.bind fun r hr => ?_
    split
    · exact ends_fail (hunanswered _)
    · exact ends_fail (hr.2 _ rfl).single
    · split
      · exact ends_fail (hunanswered _)
      · split
        · split
          · exact ends_pure trivial
          · exact ends_fail (hunanswered _)
        · refine (ends_note _).bind fun _ _ => ?_
          dsimp only
          split
          · next e h => exact ends_fail (Refusal.single_classify ⟨_, rfl⟩ rfl h)
          · exact ends_fail (.foreign _)

theorem clears_granted (c : StoredCredential) (v : Json) :
    Clears (Single ErrorEntry.Known) (granted c v) := by
  rw [granted.eq_def]
  split
  · split
    · exact clears_ok trivial
    · exact clears_error (single_known rfl none)
  · exact clears_error (single_known rfl none)

theorem clears_expiry (c : StoredCredential) (now : Instant) (members : Members) :
    Clears (Single ErrorEntry.Known) (expiry c now members) := by
  rw [expiry]
  split
  · exact clears_ok trivial
  · split
    · exact clears_ok trivial
    · split
      · exact clears_error (.foreign _)
      · exact clears_error (single_known rfl _)
      · split
        · exact clears_ok trivial
        · exact clears_error (.foreign _)

theorem clears_token (v : Json) (members : Members) (expiry : Option Instant) :
    Clears (Single ErrorEntry.Known) (token v members expiry) := by
  rw [token]
  split
  · exact clears_ok trivial
  · exact clears_error (.foreign _)

theorem ends_currentToken (timeout : Int) (c : StoredCredential) :
    Ends (Single ErrorEntry.Known) (currentToken timeout c) := by
  refine ends_get.bind fun w _ => ?_
  dsimp only
  split
  · exact ends_fail (.foreign _)
  · exact (ends_note _).bind fun _ _ => ends_pure trivial
  · split
    · exact ends_fail (single_known rfl none)
    · refine (ends_note _).bind fun _ _ => (ends_answer timeout c).bind fun answer _ => ?_
      refine (ends_ofExcept (clears_granted c answer)).bind fun granted _ => ?_
      refine (ends_ofExcept (clears_expiry c _ _)).bind fun expiry _ => ?_
      exact (ends_note _).bind fun _ _ => ends_ofExcept (clears_token _ _ _)

end Refresh

theorem StoreSource.ends_resolve (store : CredentialStore) (timeout : Int) :
    Ends (Single ErrorEntry.Known) (resolve store timeout) := by
  have hload : Ends (Single ErrorEntry.Known) store.load := by
    refine (ends_note _).bind fun _ _ => ends_onFiles fun files => ?_
    obtain ⟨-, hread⟩ := StoreFile.clears_read files store.path
    cases h : StoreFile.read files store.path with
    | error f => exact clears_error (hread f h)
    | ok members => exact StoreFile.clears_credential store.path members
  refine hload.bind fun c _ => (Refresh.ends_currentToken timeout c).bind fun token _ => ?_
  refine ends_get.bind fun w _ => ?_
  split
  · exact ends_fail (.foreign _)
  · exact ends_pure trivial
  · exact ends_fail (single_known rfl none)

/-! ## One pass over the sources -/

inductive SourceKind.Fails : Failure → Prop
  | single {f : Failure} (h : f.Single ErrorEntry.Known) : Fails f
  /-- The program that prints a token failed. -/
  | program {c : Command} {f : Failure} (h : c.Fails f) : Fails (GcloudSource.wrapped f)

theorem GcloudSource.ends_resolve (c : Command) : Ends SourceKind.Fails (resolve c) := by
  have hrun : Ends c.Fails (c.run Default.gcloudArguments) :=
    (ends_note _).bind fun _ _ => (ends_start _ _).bind fun run hforeign =>
      ends_ofExcept (Command.clears_output hforeign)
  refine hrun.attempt.bind fun r hr => ?_
  cases r with
  | error f => exact ends_fail (.program (hr.2 f rfl))
  | ok stdout => exact (ends_ofExcept (clears_tokenOf stdout)).mono fun _ => .single

theorem Settings.exists_adapter (s : Settings) (store : CredentialStore) (kind : SourceKind) :
    ∃ adapter, s.adapters store kind = some adapter ∧ Ends SourceKind.Fails adapter := by
  cases kind with
  | env =>
    exact ⟨_, rfl, ((AmbientSource.ends_resolve _).mono fun _ => .single).map fun _ _ => trivial⟩
  | gcloud => exact ⟨_, rfl, (GcloudSource.ends_resolve _).map fun _ _ => trivial⟩
  | store =>
    exact ⟨_, rfl, ((StoreSource.ends_resolve _ _).mono fun _ => .single).map fun _ _ => trivial⟩

inductive Resolver.Fails (identifiers : List Text) : Failure → Prop
  | source {f : Failure} (h : SourceKind.Fails f) : Fails identifiers f
  /-- An identifier names no source. -/
  | unknown {identifier : Text} {e : HelperError} (hmem : identifier ∈ identifiers)
    (h : SourceKind.parse identifier = .error e) : Fails identifiers (.helper e)

theorem Resolver.Fails.tail {identifier : Text} {rest : List Text} {f : Failure}
    (h : Resolver.Fails rest f) : Resolver.Fails (identifier :: rest) f := by
  cases h with
  | source h => exact .source h
  | unknown hmem h => exact .unknown (List.mem_cons_of_mem _ hmem) h

theorem Settings.ends_resolveFrom (s : Settings) (store : CredentialStore)
    (identifiers : List Text) (last : Option HelperError)
    (hlast : ∀ e ∈ last, SourceKind.Fails (.helper e)) :
    Ends (Resolver.Fails identifiers)
      (Resolver.resolveFrom (s.adapters store) last identifiers) := by
  -- the error that is carried along is one of a source, and so is the one that is left at the end
  induction identifiers generalizing last with
  | nil =>
    cases last with
    | none => exact ends_pure trivial
    | some e => exact ends_fail (.source (hlast e rfl))
  | cons identifier rest ih =>
    rw [Resolver.resolveFrom, Resolver.adapterFor]
    cases hparse : SourceKind.parse identifier with
    | error e =>
      -- no source is tried after such an identifier, whatever comes behind the bind
      exact Ends.bind (Q := fun _ => False)
        (ends_fail (.unknown List.mem_cons_self hparse)) fun _ => False.elim
    | ok kind =>
      obtain ⟨adapter, hadapter, hends⟩ := s.exists_adapter store kind
      dsimp only
      rw [hadapter]
      refine (ends_ofExcept (clears_ok rfl)).bind fun tried htried => ?_
      subst htried
      refine (ends_note _).bind fun _ _ => hends.attempt.bind fun r hr => ?_
      split
      · exact (ends_note _).bind fun _ _ => ends_pure trivial
      · next e =>
        split
        · refine (ends_note _).bind fun _ _ => (ih (some e) ?_).mono fun _ => .tail
          rintro _ ⟨⟩
          exact hr.2 _ rfl
        · exact ends_fail (.source (hr.2 _ rfl))
      · exact ends_fail (.source (hr.2 _ rfl))

/-! ## Logging in and saving -/

inductive LoginClient.Fails : Failure → Prop
  | foreign (c : Cause) : Fails (.foreign c)
  | incomplete (message : Text) (cause : Cause) :
    Fails (.helper (.root ⟨.login, message, [], []⟩ (some cause)))
  | advised (message : Text) {advice : List Text}
    (h : advice = configureFirst ∨ advice = revokeFirst) : Fails (.plain .login message advice)

theorem LoginClient.ends_logIn (c : LoginClient) : Ends Fails c.logIn := by
  rw [logIn]
  split
  · exact ends_fail (.advised _ (.inl rfl))
  · refine (ends_note _).bind fun _ _ => (ends_askLogin _).attempt.bind fun r hr => ?_
    split
    · next f =>
      obtain ⟨cause, rfl⟩ := hr.2 f rfl
      refine ends_fail ?_
      rw [incomplete]
      split
      · exact .foreign cause
      · exact .incomplete _ cause
    · dsimp only
      split
      · exact ends_fail (.advised _ (.inr rfl))
      · refine (ends_note _).bind fun _ _ => ends_ofExcept ?_
        cases c.credential _ _ with
        | error e => exact clears_error (.foreign _)
        | ok credential => exact clears_ok trivial

/-- An entry for a credential that cannot be written. -/
structure ErrorEntry.Unwritten (entry : ErrorEntry) : Prop where
  kind : entry.kind = .storeWrite
  suggestions : entry.suggestions = []

theorem StoreFile.clears_save (tree : FileTree) (path : Text) (c : StoredCredential) :
    Clears (Single ErrorEntry.Unwritten) (StoreFile.save tree path c).2 := by
  rw [StoreFile.save_def]
  split
  · next f h =>
    rw [readOrEmpty_def] at h
    split at h
    · cases h
    · cases h
    · cases h
      exact clears_error (.foreign _)
  · rw [StoreFile.write_def]
    split
    · exact clears_error (.level ⟨rfl, rfl⟩ _)
    · split
      · exact clears_error (.level ⟨rfl, rfl⟩ _)
      · exact clears_ok trivial

theorem CredentialStore.ends_save (store : CredentialStore) (c : StoredCredential) :
    Ends (Single ErrorEntry.Unwritten) (store.save c) :=
  (ends_onFiles fun files => StoreFile.clears_save files store.path c).bind fun _ _ => ends_note _

/-! ## Requests -/

namespace Coordinator

def wrapped (kind : ErrorKind) (message : Text) : Failure → Failure
  | .helper e => .helper (.wrap ⟨kind, message, [], []⟩ e)
  | f => f

theorem ends_wrapping {α : Type} {P : Failure → Prop} {Q : α → Prop} {P' : Failure → Prop}
    {kind : ErrorKind} {message : Text} {a : Action World α} (h : Ends P a Q)
    (hP : ∀ f, P f → P' (wrapped kind message f)) : Ends P' (wrapping kind message a) Q := by
  refine h.attempt.bind fun r hr => ?_
  split
  · exact ends_pure (hr.1 _ rfl)
  · exact ends_fail (hP _ (hr.2 _ rfl))
  · next f hforeign =>
    cases f with
    | helper e => exact absurd rfl (hforeign e)
    | foreign c => exact ends_fail (hP _ (hr.2 _ rfl))

end Coordinator

open Coordinator in
/-- How a request for a credential fails, with the identifiers of its sources. -/
inductive Helper.Fails (identifiers : List Text) : Failure → Prop
  /-- The first pass ended with a failure from outside, or the pass after a login failed. -/
  | pass {f : Failure} (h : Resolver.Fails identifiers f) : Fails identifiers f
  | unretrieved {e : HelperError} (h : Resolver.Fails identifiers (.helper e)) :
    Fails identifiers (.helper (unretrieved e))
  | login {f : Failure} (h : LoginClient.Fails f) :
    Fails identifiers (wrapped .authenticationFailed "unable to authenticate user" f)
  | save {f : Failure} (h : f.Single ErrorEntry.Unwritten) :
    Fails identifiers (wrapped .persist "unable to persist access token" f)
  | noSources : Fails identifiers noSources

namespace Settings

theorem ends_reauthenticate (s : Settings) (store : CredentialStore) (identifiers : List Text) :
    Ends (Helper.Fails identifiers) (s.coordinator store).reauthenticate := by
  refine (ends_note _).bind fun _ _ => ?_
  refine (Coordinator.ends_wrapping s.loginClient.ends_logIn fun _ => .login).bind
    fun credential _ => ?_
  exact (Coordinator.ends_wrapping (store.ends_save credential) fun _ => .save).bind
    fun _ _ => ends_note _

theorem ends_resolve (s : Settings) (store : CredentialStore) (identifiers : List Text) :
    Ends (Helper.Fails identifiers) ((s.coordinator store).resolve identifiers) := by
  have hpass : Ends (Resolver.Fails identifiers)
      (Resolver.resolve (s.adapters store) identifiers) :=
    s.ends_resolveFrom store identifiers none nofun
  refine hpass.attempt.bind fun r hr => ?_
  split
  · exact ends_pure trivial
  · next e =>
    split
    · exact (ends_note _).bind fun _ _ => (s.ends_reauthenticate store identifiers).bind
        fun _ _ => hpass.mono fun _ => .pass
    · exact ends_fail (.unretrieved (hr.2 _ rfl))
  · exact ends_fail (.pass (hr.2 _ rfl))

end Settings

/-- Every failure of a request is one of the known ones. -/
theorem Helper.ends_get_fails (s : Settings) (store : CredentialStore) (registry : Text) :
    Ends (Fails s.tokenSources) ((ofSettings s store).get registry) := by
  refine (ends_note _).bind fun _ _ => (s.ends_resolve store s.tokenSources).bind
    fun token _ => ?_
  split
  · exact ends_pure trivial
  · exact ends_fail .noSources

end CredentialHelper
