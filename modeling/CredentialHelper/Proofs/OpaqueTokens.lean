import CredentialHelper.Proofs.AlikeFiles
import CredentialHelper.Proofs.UsableSecret

/-!
# Access tokens decide nothing

Two worlds are alike if they are the same but for the access tokens in them, which are empty in both
or in neither.  A request runs alike in such worlds: it ends with the same error or with secrets
that may differ, and what it logs, shows and asks for is the same.
-/

namespace CredentialHelper

open CredentialHelper.Action World

/-! ## Answers that differ in access tokens -/

namespace Script

variable {α : Type} {R : α → α → Prop} {s s' : Script α}

structure Alike (R : α → α → Prop) (s s' : Script α) : Prop where
  answers : List.Forall₂ R s.answers s'.answers
  otherwise : R s.otherwise s'.otherwise

theorem Alike.refl (h : ∀ a, R a a) (s : Script α) : s.Alike R s :=
  ⟨List.forall₂_same.2 fun a _ => h a, h _⟩

theorem Alike.head (h : s.Alike R s') : R s.head s'.head := by
  obtain ⟨answers, otherwise⟩ := s
  obtain ⟨answers', otherwise'⟩ := s'
  cases h.answers with
  | nil => exact h.otherwise
  | cons hanswer _ => exact hanswer

theorem Alike.tail (h : s.Alike R s') : s.tail.Alike R s'.tail :=
  ⟨List.forall₂_drop 1 h.answers, h.otherwise⟩

end Script

def Refresh.Delivers (r : Response) (members : Members) : Prop :=
  200 ≤ r.status ∧ r.status < 300 ∧
    ∃ body, ContentCoding.decodeAll
        (ContentCoding.ofNames ((Response.header? r "content-encoding").getD "")) r.body =
          .ok body ∧
      Response.json { r with body } = .ok (.object members)

/-- Two answers of the network that are the same, or grants that are the same but for the access
token. -/
inductive AlikeResponses : Except Failure Response → Except Failure Response → Prop
  | same (answer : Except Failure Response) : AlikeResponses answer answer
  | granted {r r' : Response} {members members' : Members} (h : Refresh.Delivers r members)
      (h' : Refresh.Delivers r' members') (alike : Members.TokensAlike members members') :
    AlikeResponses (.ok r) (.ok r')

def AlikeOutputs (stdout stdout' : Bytes) : Prop :=
  AsEmpty (Blank.strip (Utf8.decodeLenient stdout)) (Blank.strip (Utf8.decodeLenient stdout'))

theorem AlikeOutputs.refl (stdout : Bytes) : AlikeOutputs stdout stdout := AsEmpty.refl _

/-- Two outcomes of a program that are the same but for the token that it printed. -/
inductive AlikeRuns : ProgramRun → ProgramRun → Prop
  | same (run : ProgramRun) : AlikeRuns run run
  | printed (status : Int) {stdout stdout' : Bytes} (stderr : Option Bytes)
      (h : AlikeOutputs stdout stdout') :
    AlikeRuns (.ended status stdout stderr) (.ended status stdout' stderr)

inductive AlikeDetections : Except Failure Detected → Except Failure Detected → Prop
  | same (answer : Except Failure Detected) : AlikeDetections answer answer
  | tokens (isServiceAccount : Bool) {token token' : Option Text} (expiry : Option Moment)
      (h : AsEmpty (token.getD []) (token'.getD [])) :
    AlikeDetections (.ok ⟨isServiceAccount, .ok ⟨token, expiry⟩⟩)
      (.ok ⟨isServiceAccount, .ok ⟨token', expiry⟩⟩)

inductive AlikeGrants : Except Failure Grant → Except Failure Grant → Prop
  | same (answer : Except Failure Grant) : AlikeGrants answer answer
  | tokens {token token' : Option Text} (refreshToken : Option Text) (expiry : Option Moment)
      (h : AsEmpty (token.getD []) (token'.getD [])) :
    AlikeGrants (.ok ⟨token, refreshToken, expiry⟩) (.ok ⟨token', refreshToken, expiry⟩)

/-! ## Worlds that differ in access tokens -/

namespace World

/-- Two worlds that are the same but for the access tokens in them. -/
structure Alike (w w' : World) : Prop where
  now : w.now = w'.now
  environment : w.environment = w'.environment
  accounts : w.accounts = w'.accounts
  files : w.files.Alike w'.files
  http : w.http.Alike AlikeResponses w'.http
  programs : w.programs.Alike AlikeRuns w'.programs
  detections : w.detections.Alike AlikeDetections w'.detections
  logins : w.logins.Alike AlikeGrants w'.logins
  events : w.events = w'.events
  journal : w.journal = w'.journal

theorem Alike.refl (w : World) : w.Alike w where
  now := rfl
  environment := rfl
  accounts := rfl
  files := .refl _
  http := .refl .same _
  programs := .refl .same _
  detections := .refl .same _
  logins := .refl .same _
  events := rfl
  journal := rfl

variable {w w' : World}

theorem Alike.note (h : w.Alike w') (line : Line) :
    Alike (Journaled.note line w) (Journaled.note line w') :=
  { h with journal := congrArg (· ++ [line]) h.journal }

theorem agrees_note (line : Line) : Agrees Alike Eq (Action.note line) (Action.note line) :=
  fun _ _ h => ⟨.ok rfl, h.note line⟩

theorem agrees_log (level : LogLevel) (area : String) (message : Text) :
    Agrees Alike Eq (Action.log level area message) (Action.log level area message) :=
  agrees_note _

theorem agrees_send (event : Event) :
    Agrees Alike AlikeResponses (Action.attempt (send event)) (Action.attempt (send event)) :=
  fun _ _ h => ⟨.ok h.http.head,
    { h with http := h.http.tail, events := congrArg (· ++ [event]) h.events }⟩

theorem agrees_start (argv : List Text) (timeout : Option Quantity) :
    Agrees Alike AlikeRuns (start argv timeout) (start argv timeout) :=
  fun _ _ h => ⟨.ok h.programs.head,
    { h with programs := h.programs.tail, events := congrArg (· ++ [_]) h.events }⟩

theorem agrees_askLogin (r : LoginRequest) :
    Agrees Alike AlikeGrants (Action.attempt (askLogin r)) (Action.attempt (askLogin r)) :=
  fun _ _ h => ⟨.ok h.logins.head,
    { h with logins := h.logins.tail, events := congrArg (· ++ [_]) h.events }⟩

end World

/-! ## Tokens -/

namespace Token

structure Alike (t t' : Token) : Prop where
  value : AsEmpty t.value t'.value
  type : t.type = t'.type
  expiry : t.expiry = t'.expiry

theorem Alike.refl (t : Token) : t.Alike t := ⟨.refl _, rfl, rfl⟩

variable {t t' : Token}

theorem Alike.isValid (h : t.Alike t') (now : Moment) : t.isValid now = t'.isValid now := by
  rw [Token.isValid, Token.isValid, h.value.isEmpty, h.expiry]

theorem Alike.isLive (h : t.Alike t') (now : Moment) : t.isLive now = t'.isLive now := by
  rw [Token.isLive, Token.isLive, h.value.isEmpty, h.expiry, h.isValid]

end Token

/-! ## The sources -/

theorem Detected.token_alike (isServiceAccount : Bool) {token token' : Option Text}
    (expiry : Option Moment) (h : AsEmpty (token.getD []) (token'.getD [])) :
    Agree Token.Alike (Detected.token ⟨isServiceAccount, .ok ⟨token, expiry⟩⟩)
      (Detected.token ⟨isServiceAccount, .ok ⟨token', expiry⟩⟩) := by
  rw [Detected.token, Detected.token]
  cases expiry with
  | none => exact .ok ⟨h, rfl, rfl⟩
  | some e =>
    dsimp only
    cases e.utc? with
    | none => exact .error _
    | some t => exact .ok ⟨h, rfl, rfl⟩

namespace AmbientSource

theorem accept_alike {t t' : Token} (h : t.Alike t') (now : Instant) :
    Agree AsEmpty (accept (some t) now) (accept (some t') now) := by
  unfold accept
  dsimp only
  rw [h.isValid, h.type]
  split
  · exact .error _
  · exact .error _
  · split
    · exact .ok h.value
    · exact .error _

theorem agrees_resolve (scopes : List Text) :
    Agrees Alike AsEmpty (resolve defaultDetector scopes) (resolve defaultDetector scopes) := by
  intro w w' h
  rw [runOn_resolve, runOn_resolve]
  have hleft : World.Alike ((World.detect scopes).runOn w).2 ((World.detect scopes).runOn w').2 :=
    { h with detections := h.detections.tail, events := congrArg (· ++ [_]) h.events }
  refine ⟨?_, hleft⟩
  have hdetected := h.detections.head
  dsimp only
  rw [h.now]
  generalize w.detections.head = r, w'.detections.head = r' at hdetected
  cases hdetected with
  | same => exact Agree.refl AsEmpty.refl _
  | @tokens isServiceAccount token token' expiry htoken =>
    have hfetched := Detected.token_alike isServiceAccount expiry htoken
    dsimp only
    generalize Detected.token ⟨isServiceAccount, .ok ⟨token, expiry⟩⟩ = r,
      Detected.token ⟨isServiceAccount, .ok ⟨token', expiry⟩⟩ = r' at hfetched
    cases hfetched with
    | ok h => exact accept_alike h _
    | error f => exact .error _

end AmbientSource

namespace GcloudSource

theorem agrees_run (c : Command) (arguments : List Text) :
    Agrees Alike AlikeOutputs (c.run arguments) (c.run arguments) := by
  refine (agrees_log _ _ _).bind fun _ _ _ => (agrees_start _ _).bind fun run run' hrun => ?_
  refine agrees_ofExcept ?_
  cases hrun with
  | same => exact Agree.refl AlikeOutputs.refl _
  | printed status stderr h =>
    rw [Command.output, Command.output]
    split
    · exact .ok h
    · exact .error _

theorem tokenOf_alike {stdout stdout' : Bytes} (h : AlikeOutputs stdout stdout') :
    Agree AsEmpty (tokenOf stdout) (tokenOf stdout') := by
  rw [tokenOf, tokenOf, h.isEmpty]
  split
  · exact .error _
  · exact .ok h

theorem agrees_resolve (c : Command) : Agrees Alike AsEmpty (resolve c) (resolve c) := by
  refine (agrees_run c _).attempt.bind fun r r' hr => ?_
  cases hr with
  | ok h => exact agrees_ofExcept (tokenOf_alike h)
  | error f => exact agrees_fail _

end GcloudSource

namespace Refresh

def AlikeAnswers (v v' : Json) : Prop := v = v' ∨ TokenHolders v v'

theorem AlikeAnswers.refl (v : Json) : AlikeAnswers v v := .inl rfl

/-- A response that is a success redirects nowhere. -/
theorem received_of_delivers {r : Response} {members : Members} (h : Delivers r members)
    (url : Url) :
    ∃ body, Response.received url r = (if url.isAbsolute then .ok { r with body }
        else .error (.relative url.target.text)) ∧
      Response.json { r with body } = .ok (.object members) := by
  obtain ⟨hlow, hhigh, body, hbody, hjson⟩ := h
  have hlocation : Response.location? r = none := by
    rw [Response.location?, if_neg]
    simp only [List.contains_eq_mem, List.mem_cons, List.not_mem_nil, or_false, decide_eq_true_eq]
    omega
  refine ⟨body, ?_, hjson⟩
  rw [Response.received]
  simp only [hbody, hlocation, Except.mapError, bind, Except.bind]
  cases url.isAbsolute with
  | false => rfl
  | true => rfl

theorem agrees_answer (timeout : Int) (c : StoredCredential) :
    Agrees Alike AlikeAnswers (answer timeout c) (answer timeout c) := by
  rw [answer]
  split
  · exact agrees_fail _
  next url event _ =>
  refine (agrees_send event).bind fun r r' hr => ?_
  cases hr with
  | same =>
    split
    · exact agrees_fail _
    · exact agrees_fail _
    · split
      · exact agrees_fail _
      · split
        · split
          · exact agrees_pure (.refl _)
          · exact agrees_fail _
        · refine (agrees_log _ _ _).bind fun _ _ _ => ?_
          dsimp only
          split
          · exact agrees_fail _
          · exact agrees_fail _
  | @granted r r' members members' h h' alike =>
    obtain ⟨body, hreceived, hjson⟩ := received_of_delivers h url
    obtain ⟨body', hreceived', hjson'⟩ := received_of_delivers h' url
    dsimp only
    rw [hreceived, hreceived']
    cases url.isAbsolute with
    | false => exact agrees_fail _
    | true =>
      simp only [if_true]
      rw [if_pos ⟨h.1, h.2.1⟩, if_pos ⟨h'.1, h'.2.1⟩, hjson, hjson']
      exact agrees_pure (.inr ⟨members, members', rfl, rfl, alike⟩)

theorem granted_alike (c : StoredCredential) {v v' : Json} (h : AlikeAnswers v v') :
    Agree (fun p p' => (p.1 = p'.1 ∨ TokenValues p.1 p'.1) ∧ Members.TokensAlike p.2 p'.2)
      (granted c v) (granted c v') := by
  rcases h with rfl | ⟨members, members', rfl, rfl, alike⟩
  · exact Agree.refl (fun _ => ⟨.inl rfl, .refl _⟩) _
  · have hget := alike.get?
    rw [granted, granted]
    generalize Members.get? _ members = r, Members.get? _ members' = r' at hget ⊢
    cases hget with
    | none => exact .error _
    | some htoken => exact .ok ⟨htoken, alike⟩

theorem expiry_alike (c : StoredCredential) (now : Instant) {members members' : Members}
    (h : Members.TokensAlike members members') :
    Agree Eq (expiry c now members) (expiry c now members') := by
  rw [expiry, h.get?_of_ne (by decide), ← expiry]
  exact Agree.refl (fun _ => rfl) _

theorem token_alike {v v' : Json} (hv : v = v' ∨ TokenValues v v') {members members' : Members}
    (h : Members.TokensAlike members members') (expiry : Option Instant) :
    Agree Token.Alike (token v members expiry) (token v' members' expiry) := by
  rw [token, token, h.get?_of_ne (by decide)]
  generalize (members'.get? (Text.ofString "token_type")).getD (Json.ofString Default.bearer) = type
  rcases hv with rfl | ⟨t, t', rfl, rfl, ht⟩
  · exact Agree.refl Token.Alike.refl _
  · have hmembers (t : Text) : Token.ofMembers [(Text.ofString "value", .string t),
        (Text.ofString "token_type", type)] =
          ((Validation.field "token_type" Validation.readText type).map fun u =>
            ⟨t, u, none⟩).mapError (Validation.Report.mk Token.formName) := by
      have hvalue : Validation.field "value" Validation.readText (.string t) = .ok t := rfl
      cases hread : Validation.field "token_type" Validation.readText type with
      | ok u =>
        simp [Token.ofMembers, Validation.required, Validation.optional, Members.get?,
          Text.ofString_eq_iff, hvalue, hread, Except.map, Except.mapError]
      | error issues =>
        simp [Token.ofMembers, Validation.required, Validation.optional, Members.get?,
          Text.ofString_eq_iff, hvalue, hread, Validation.Checked.issues, Except.map,
          Except.mapError]
    rw [hmembers, hmembers]
    cases Validation.field "token_type" Validation.readText type with
    | ok u => exact .ok ⟨ht, rfl, rfl⟩
    | error issues => exact .error _

theorem agrees_currentToken (timeout : Int) {c c' : StoredCredential} (h : c.Alike c') :
    Agrees Alike Token.Alike (currentToken timeout c) (currentToken timeout c') := by
  obtain ⟨htoken, hsame⟩ := h
  generalize c'.accessToken = t at htoken hsame
  subst hsame
  have hheld : Token.Alike c.token { c with accessToken := t }.token := ⟨htoken, rfl, rfl⟩
  refine agrees_get.bind fun w w' hw => ?_
  dsimp only
  rw [hw.now, hheld.isLive]
  split
  · exact agrees_fail _
  · exact (agrees_log _ _ _).bind fun _ _ _ => agrees_pure hheld
  · split
    · exact agrees_fail _
    · refine (agrees_log _ _ _).bind fun _ _ _ => ?_
      refine (agrees_answer timeout c).bind fun v v' hv => ?_
      refine (agrees_ofExcept (granted_alike c hv)).bind fun p p' hp => ?_
      refine (agrees_ofExcept (expiry_alike c w'.now hp.2)).bind fun e e' he => ?_
      subst he
      exact (agrees_log _ _ _).bind fun _ _ _ => agrees_ofExcept (token_alike hp.1 hp.2 _)

end Refresh

namespace StoreSource

theorem agrees_load (store : CredentialStore) :
    Agrees Alike StoredCredential.Alike store.load store.load := by
  intro w w' h
  rw [CredentialStore.runOn_load, CredentialStore.runOn_load]
  refine ⟨?_, h.note _⟩
  exact (StoreFile.read_alike h.files store.path).bind fun members members' hmembers =>
    StoreFile.credential_alike store.path hmembers

theorem agrees_resolve (store : CredentialStore) (timeout : Int) :
    Agrees Alike AsEmpty (resolve store timeout) (resolve store timeout) := by
  refine (agrees_load store).bind fun c c' hc => ?_
  refine (Refresh.agrees_currentToken timeout hc).bind fun token token' htoken => ?_
  refine agrees_get.bind fun w w' hw => ?_
  rw [hw.now, htoken.isLive]
  split
  · exact agrees_fail _
  · exact agrees_pure htoken.value
  · exact agrees_fail _

end StoreSource

/-! ## Logging in again -/

theorem LoginClient.agrees_logIn (c : LoginClient) :
    Agrees Alike StoredCredential.Alike c.logIn c.logIn := by
  rw [logIn]
  split
  · exact agrees_fail _
  refine (agrees_log _ _ _).bind fun _ _ _ => (agrees_askLogin _).bind fun r r' hr => ?_
  cases hr with
  | same =>
    split
    · exact agrees_fail _
    · dsimp only
      split
      · exact agrees_fail _
      · refine (agrees_log _ _ _).bind fun _ _ _ => agrees_ofExcept ?_
        exact Agree.refl StoredCredential.Alike.refl _
  | @tokens token token' refreshToken expiry h =>
    dsimp only
    split
    · exact agrees_fail _
    · refine (agrees_log _ _ _).bind fun _ _ _ => agrees_ofExcept (Agree.mapError _ ?_)
      rw [credential, credential]
      cases expiry with
      | none => exact .ok ⟨h, rfl⟩
      | some e =>
        dsimp only
        cases e.utc? with
        | none => exact .error _
        | some t => exact .ok ⟨h, rfl⟩

theorem CredentialStore.agrees_save (store : CredentialStore) {c c' : StoredCredential}
    (hc : c.Alike c') : Agrees Alike Eq (store.save c) (store.save c') := by
  intro w w' h
  rw [runOn_save, runOn_save]
  obtain ⟨tree, tree', result, hr, hr', htree⟩ :=
    (StoreFile.save_alike h.files store.path hc).exists_eq
  rw [hr, hr']
  have hsaved : World.Alike { w with files := tree } { w' with files := tree' } :=
    { h with files := htree }
  cases result with
  | error f => exact ⟨.error f, hsaved⟩
  | ok _ => exact ⟨.ok rfl, hsaved.note _⟩

namespace Coordinator

theorem agrees_wrapping {α β : Type} {Q : α → β → Prop} {kind : ErrorKind} {message : Text}
    {a : Action World α} {b : Action World β} (h : Agrees Alike Q a b) :
    Agrees Alike Q (wrapping kind message a) (wrapping kind message b) := by
  refine h.attempt.bind fun r r' hr => ?_
  cases hr with
  | ok h => exact agrees_pure h
  | error f =>
    cases f with
    | helper e => exact agrees_fail _
    | foreign c => exact agrees_fail _

end Coordinator

/-! ## A whole request -/

/-- Two results of a resolution: no tokens, or two that cannot be told apart by whether they are
empty. -/
abbrev AlikeResults : Option Text → Option Text → Prop := Option.Rel AsEmpty

namespace Settings

variable (s : Settings) (store : CredentialStore)

theorem agrees_adapters {kind : SourceKind} {adapter : Action World (Option Text)}
    (h : s.adapters store kind = some adapter) : Agrees Alike AlikeResults adapter adapter := by
  cases kind with
  | env =>
    cases h
    exact (AmbientSource.agrees_resolve _).map fun _ _ => .some
  | gcloud =>
    cases h
    exact (GcloudSource.agrees_resolve _).map fun _ _ => .some
  | store =>
    cases h
    exact (StoreSource.agrees_resolve _ _).map fun _ _ => .some

theorem agrees_resolveFrom (last : Option HelperError) (identifiers : List Text) :
    Agrees Alike AlikeResults (Resolver.resolveFrom (s.adapters store) last identifiers)
      (Resolver.resolveFrom (s.adapters store) last identifiers) := by
  induction identifiers generalizing last with
  | nil =>
    cases last with
    | none => exact agrees_pure .none
    | some e => exact agrees_fail _
  | cons identifier rest ih =>
    have hadapter : Agree (Agrees Alike AlikeResults)
        ((Resolver.adapterFor (s.adapters store) identifier).mapError Failure.helper)
        ((Resolver.adapterFor (s.adapters store) identifier).mapError Failure.helper) := by
      rw [Resolver.adapterFor]
      split
      · exact .error _
      · split
        · next hkind => exact .ok (s.agrees_adapters store hkind)
        · exact .error _
    rw [Resolver.resolveFrom]
    refine (agrees_ofExcept hadapter).bind fun adapter adapter' h => ?_
    refine (agrees_log _ _ _).bind fun _ _ _ => h.attempt.bind fun r r' hr => ?_
    cases hr with
    | ok htoken => exact (agrees_log _ _ _).bind fun _ _ _ => agrees_pure htoken
    | error f =>
      cases f with
      | foreign c => exact agrees_fail _
      | helper e =>
        dsimp only
        split
        · exact (agrees_log _ _ _).bind fun _ _ _ => ih _
        · exact agrees_fail _

theorem agrees_reauthenticate :
    Agrees Alike Eq (s.coordinator store).reauthenticate (s.coordinator store).reauthenticate := by
  refine (agrees_note _).bind fun _ _ _ => ?_
  refine (Coordinator.agrees_wrapping s.loginClient.agrees_logIn).bind fun c c' hc => ?_
  exact (Coordinator.agrees_wrapping (store.agrees_save hc)).bind fun _ _ _ => agrees_note _

theorem agrees_resolve :
    Agrees Alike AlikeResults ((s.coordinator store).resolve s.tokenSources)
      ((s.coordinator store).resolve s.tokenSources) := by
  have hpass := s.agrees_resolveFrom store none s.tokenSources
  refine hpass.attempt.bind fun r r' hr => ?_
  cases hr with
  | ok h => exact agrees_pure h
  | error f =>
    cases f with
    | foreign c => exact agrees_fail _
    | helper e =>
      dsimp only
      split
      · refine (agrees_log _ _ _).bind fun _ _ _ => ?_
        exact (s.agrees_reauthenticate store).bind fun _ _ _ => hpass
      · exact agrees_fail _

end Settings

namespace Helper

/-- A request in two worlds that are the same but for the access tokens in them ends with the same
error, or with credentials that are the same but for the secret.  The worlds that it leaves are the
same but for the access tokens in them: it logs and shows the same and asks for the same. -/
theorem get_agrees_but_tokens {w w' : World} (h : w.Alike w') (s : Settings)
    (store : CredentialStore) (registry : Text) :
    Agree (fun c c' : RegistryCredential => c.userName = c'.userName ∧ AsEmpty c.secret c'.secret)
        (((ofSettings s store).get registry).runOn w).1
        (((ofSettings s store).get registry).runOn w').1 ∧
      World.Alike (((ofSettings s store).get registry).runOn w).2
        (((ofSettings s store).get registry).runOn w').2 := by
  have hget : Agrees Alike (fun c c' : RegistryCredential =>
      c.userName = c'.userName ∧ AsEmpty c.secret c'.secret)
      ((ofSettings s store).get registry) ((ofSettings s store).get registry) := by
    refine (agrees_log _ _ _).bind fun _ _ _ => (s.agrees_resolve store).bind fun r r' hr => ?_
    cases hr with
    | none => exact agrees_fail _
    | some htoken => exact agrees_pure ⟨rfl, htoken⟩
  exact hget w w' h

def reprintingWorld : World :=
  { World.bare with programs := ⟨[.ended 0 [0x74, 0x6f, 0x6b] none], .absent⟩ }

theorem alike_printingWorld : printingWorld.Alike reprintingWorld := by
  have hprinted : AlikeOutputs printed [0x74, 0x6f, 0x6b] := by
    unfold AlikeOutputs
    decide +kernel
  exact { World.Alike.refl World.bare with programs := ⟨.cons (.printed 0 none hprinted) .nil,
    .same _⟩ }

def savedWorld (w : World) (token : String) : World :=
  ((CredentialStore.save ⟨"creds.json"⟩ { accessToken := Text.ofString token }).runOn w).2

theorem alike_savedWorld {w w' : World} (h : w.Alike w') {token token' : String}
    (htoken : AsEmpty (Text.ofString token) (Text.ofString token')) :
    (savedWorld w token).Alike (savedWorld w' token') :=
  (CredentialStore.agrees_save ⟨"creds.json"⟩ ⟨htoken, rfl⟩ w w' h).2

/-- The requests give different secrets, from the store, and log the same. -/
theorem get_agrees_but_tokens_savedWorld :
    let get := ((ofSettings storeSettings ⟨"creds.json"⟩).get "gcr.io").runOn
    (savedWorld printingWorld "one").Alike (savedWorld reprintingWorld "other") ∧
      (get (savedWorld printingWorld "one")).1.toOption.map RegistryCredential.secret =
        some (Text.ofString "one") ∧
      (get (savedWorld reprintingWorld "other")).1.toOption.map RegistryCredential.secret =
        some (Text.ofString "other") ∧
      (get (savedWorld printingWorld "one")).2.journal =
        (get (savedWorld reprintingWorld "other")).2.journal ∧
      (get (savedWorld printingWorld "one")).2.events =
        (get (savedWorld reprintingWorld "other")).2.events := by
  have halike : (savedWorld printingWorld "one").Alike (savedWorld reprintingWorld "other") :=
    alike_savedWorld alike_printingWorld (by decide)
  have hafter := (get_agrees_but_tokens halike storeSettings ⟨"creds.json"⟩ "gcr.io").2
  exact ⟨halike, by decide +kernel, by decide +kernel, hafter.journal, hafter.events⟩

end Helper

end CredentialHelper
