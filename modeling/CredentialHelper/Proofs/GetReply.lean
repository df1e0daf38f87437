import CredentialHelper.Proofs.CommandFiles
import CredentialHelper.Proofs.JoinedText
import CredentialHelper.Proofs.SettingsFailure
import CredentialHelper.Proofs.UsableSecret

/-!
# What the calling program reads

A request for a credential shows one message to the calling program: the credential on a line, or
the text of the error that ended the request.  Everything before that message is `World.Quiet`, and
a request that ends with a failure from outside shows no message at all.
-/

namespace CredentialHelper

open CredentialHelper.Action World

/-! ## The line of a credential -/

namespace Json

theorem le_of_mem_string {t : Text} {c : Char} (h : c ∈ Writer.string t) : 0x20 ≤ c.toNat := by
  rw [Writer.string, List.mem_append, List.mem_cons, List.mem_singleton, List.mem_flatMap] at h
  rcases h with (rfl | ⟨s, -, hs⟩) | rfl
  · decide
  · exact le_of_mem_symbol hs
  · decide

end Json

namespace CommandLine

open Json

def credentialObject (registry : Text) (c : RegistryCredential) : Json :=
  Json.ofMembers [("ServerURL", .string registry), ("Username", .string c.userName),
    ("Secret", .string c.secret)]

theorem readable_credentialObject {registry : Text} {c : RegistryCredential}
    (hregistry : Joined registry) (huserName : Joined c.userName) (hsecret : Joined c.secret) :
    Readable 0 (credentialObject registry c) := by
  refine readable_ofMembers (by decide) (by simp) fun p hp => ?_
  simp only [List.mem_cons, List.not_mem_nil, or_false] at hp
  rcases hp with rfl | rfl | rfl
  · exact .string hregistry
  · exact .string huserName
  · exact .string hsecret

theorem floatFree_credentialObject (registry : Text) (c : RegistryCredential) :
    FloatFree (credentialObject registry c) := by
  refine floatFree_ofMembers fun p hp => ?_
  simp only [List.mem_cons, List.not_mem_nil, or_false] at hp
  rcases hp with rfl | rfl | rfl
  · exact .string _
  · exact .string _
  · exact .string _

theorem toList_credentialLine (registry : Text) (c : RegistryCredential) :
    (credentialLine registry c).toList =
      '\x7b' :: (Writer.string "ServerURL" ++ ':' :: ' ' :: Writer.string registry) ++
        (',' :: ' ' :: (Writer.string "Username" ++ ':' :: ' ' :: Writer.string c.userName) ++
          ',' :: ' ' :: (Writer.string "Secret" ++ ':' :: ' ' :: Writer.string c.secret)) ++
        ['\x7d'] := by
  rw [credentialLine, render, String.toList_ofList, Json.ofMembers]
  simp [Writer.value, Writer.members, Writer.gap, Writer.separator]

theorem no_newline_credentialLine (registry : Text) (c : RegistryCredential) :
    '\n' ∉ (credentialLine registry c).toList := by
  have hstring (t : Text) : '\n' ∉ Writer.string t := by
    intro h
    exact absurd (le_of_mem_string h) (by decide)
  rw [toList_credentialLine]
  simp [hstring]

/-- A credential is written like the one in whose texts the pairs are joined. -/
theorem credentialLine_joined (registry : Text) (c : RegistryCredential) :
    credentialLine (joined registry) ⟨joined c.userName, joined c.secret⟩ =
      credentialLine registry c := by
  refine String.toList_inj.1 ?_
  rw [toList_credentialLine, toList_credentialLine]
  simp only [string_joined]

theorem parse_credentialLine (registry : Text) (c : RegistryCredential) :
    Json.parse (Text.ofString (credentialLine registry c)) =
      .ok (credentialObject (joined registry) ⟨joined c.userName, joined c.secret⟩) := by
  rw [← credentialLine_joined, credentialLine, ← credentialObject,
    parse_render (readable_credentialObject (joined_joined _) (joined_joined _) (joined_joined _)),
    (floatFree_credentialObject _ _).reread]

end CommandLine

/-! ## Showing nothing to the calling program -/

namespace CommandLine

theorem outputOf_append (a b : List Line) : outputOf (a ++ b) = outputOf a ++ outputOf b :=
  List.flatMap_append

theorem outputOf_reply (text : Text) : outputOf [.reply text] = text := List.append_nil text

theorem outputOf_of_isLog {lines : List Line} (h : ∀ line ∈ lines, line.isLog = true) :
    outputOf lines = [] := by
  refine List.flatMap_eq_nil_iff.2 fun line hline => ?_
  cases line with
  | log r => rfl
  | status text => cases h _ hline
  | reply text => cases h _ hline

end CommandLine

namespace World

open CommandLine

/-- What there is for the calling program stays as it is. -/
def Quiet (w t : World) : Prop := outputOf t.journal = outputOf w.journal

instance : Std.Refl Quiet := ⟨fun _ => rfl⟩

instance : IsTrans World Quiet := ⟨fun _ _ _ h h' => h'.trans h⟩

theorem Advances.quiet {w t : World} (h : w.Advances t) : w.Quiet t := by
  obtain ⟨lines, hlines, hlogs⟩ := h.journal
  rw [Quiet, hlines, outputOf_append, outputOf_of_isLog hlogs, List.append_nil]

theorem outputOf_note (line : Line) (w : World) :
    outputOf (Journaled.note line w : World).journal = outputOf w.journal ++ outputOf [line] :=
  outputOf_append _ _

theorem quiet_status (text : Text) (w : World) : w.Quiet (Journaled.note (.status text) w) :=
  (outputOf_note _ w).trans (List.append_nil _)

theorem within_quiet_tell (text : Text) : Within Quiet (Action.tell text) := quiet_status text

theorem within_quiet_log (level : LogLevel) (area : String) (message : Text) :
    Within Quiet (Action.log level area message) :=
  fun w => (advances_note w rfl).quiet

end World

theorem LoginClient.quiet_logIn (c : LoginClient) : Within Quiet c.logIn := by
  intro w
  by_cases hclient : c.clientId ≠ [] ∧ c.clientSecret ≠ []
  · rw [runOn_logIn hclient.1 hclient.2]
    have hasked : w.Quiet (c.asked w) :=
      (CommandLine.outputOf_append _ _).trans (List.append_nil _)
    exact IsTrans.trans _ _ _ hasked (c.within_answered _ _).quiet
  · rw [runOn_logIn_of_unconfigured hclient]
    exact Std.Refl.refl w

theorem CredentialStore.quiet_save (store : CredentialStore) (c : StoredCredential) :
    Within Quiet (store.save c) := by
  intro w
  rw [runOn_save]
  rcases StoreFile.save w.files store.path c with ⟨files, f | _⟩
  · exact Std.Refl.refl (r := Quiet) w
  · exact (advances_note { w with files } rfl).quiet

namespace Settings

variable (s : Settings) (store : CredentialStore)

theorem quiet_reauthenticate : Within Quiet (s.coordinator store).reauthenticate := by
  refine (within_quiet_tell _).bind fun _ => ?_
  refine (Coordinator.within_wrapping s.loginClient.quiet_logIn).bind fun c => ?_
  exact (Coordinator.within_wrapping (store.quiet_save c)).bind fun _ => within_quiet_tell _

theorem quiet_resolve : Within Quiet ((s.coordinator store).resolve s.tokenSources) := by
  have hpass : Within Quiet (Resolver.resolve (s.adapters store) s.tokenSources) :=
    (Resolver.within_resolveFrom (fun _ _ => s.within_adapters store) none s.tokenSources).of_imp
      fun _ _ => Advances.quiet
  refine hpass.attempt.bind fun r => ?_
  split
  · exact within_pure _
  · split
    · refine (within_quiet_log _ _ _).bind fun _ => ?_
      exact (s.quiet_reauthenticate store).bind fun _ => hpass
    · exact within_fail _
  · exact within_fail _

end Settings

theorem Helper.quiet_get (s : Settings) (store : CredentialStore) (registry : Text) :
    Within Quiet ((ofSettings s store).get registry) := by
  refine (within_quiet_log _ _ _).bind fun _ => (s.quiet_resolve store).bind fun result => ?_
  cases result with
  | none => exact within_fail _
  | some token => exact within_pure _

namespace CommandLine

/-! ## The credential of a request -/

def credentialFor (s : Settings) (registry : Text) : Action World RegistryCredential := do
  (← makeHelper s).get registry

def createdLine (s : Settings) : Line :=
  .log ⟨.debug, "helper", "Credential helper created with " ++ s.summary⟩

theorem runOn_credentialFor (s : Settings) (registry : Text) (w : World) :
    (credentialFor s registry).runOn w =
      match s.store w.homes with
      | .error e => (.error (.foreign (.fileName e)), w)
      | .ok store =>
        ((Helper.ofSettings s store).get registry).runOn (Journaled.note (createdLine s) w) := by
  rw [credentialFor, makeHelper, bind_assoc, runOn_bind, runOn_makeStore]
  cases s.store w.homes with
  | error e => rfl
  | ok store => rfl

theorem quiet_credentialFor (s : Settings) (registry : Text) :
    Within Quiet (credentialFor s registry) := by
  intro w
  rw [runOn_credentialFor]
  cases s.store w.homes with
  | error e => exact Std.Refl.refl w
  | ok store =>
    exact IsTrans.trans _ _ _ (advances_note w rfl).quiet (Helper.quiet_get s store registry _)

/-- What the resolution of a token comes to that a request for a registry makes. -/
def resolution (s : Settings) (store : CredentialStore) (registry : Text) (w : World) :
    Except Failure (Option Text) :=
  (((s.coordinator store).resolve s.tokenSources).runOn
    (Journaled.note (Helper.requestedLine registry) (Journaled.note (createdLine s) w))).1

/-- A credential has the canonical user name and the token of the resolution. -/
theorem credentialFor_eq_ok {s : Settings} {registry : Text} {w : World} {c : RegistryCredential}
    (h : ((credentialFor s registry).runOn w).1 = .ok c) :
    ∃ store token, s.store w.homes = .ok store ∧
      resolution s store registry w = .ok (some token) ∧ c = ⟨Identity.userName, token⟩ := by
  rw [runOn_credentialFor] at h
  cases hstore : s.store w.homes with
  | error e =>
    rw [hstore] at h
    cases h
  | ok store =>
    rw [hstore] at h
    dsimp only at h
    rw [Helper.runOn_get] at h
    have hbound : (resolution s store registry w).bind (fun token =>
        (token.map (RegistryCredential.mk Identity.userName)).elim
          (.error Helper.noSources) .ok) = .ok c := h
    rcases hresult : resolution s store registry w with f | (_ | token)
    · rw [hresult] at hbound
      cases hbound
    · rw [hresult] at hbound
      cases hbound
    · rw [hresult] at hbound
      cases hbound
      exact ⟨store, token, rfl, hresult, rfl⟩

/-! ## One message -/

def hintLine (hint : Text) : Line := .status ("hint: " ++ hint ++ "\n")

def reported (e : HelperError) (w : World) : World :=
  { w with
    journal := w.journal ++
      reportedLine e :: .reply (e.message ++ Text.ofString "\n") :: e.suggestions.map hintLine }

theorem runOn_hints (hints : List Text) (w : World) :
    (hints.forM fun hint => tellLine ("hint: " ++ hint)).runOn w =
      (.ok (), { w with journal := w.journal ++ hints.map hintLine }) := by
  induction hints generalizing w with
  | nil =>
    rw [List.map_nil, List.append_nil]
    rfl
  | cons hint rest ih =>
    refine (ih (Journaled.note (hintLine hint) w)).trans ?_
    rw [List.map_cons, List.append_cons]
    rfl

/-- The report of an error shows its message and its hints, unless the message cannot be encoded:
then nothing is shown. -/
theorem runOn_report (e : HelperError) (w : World) :
    (report e).runOn w =
      match Encoding.string (e.message ++ Text.ofString "\n") with
      | .ok _ => (.ok (), reported e w)
      | .error c => (.error (.foreign (.encoding c)), Journaled.note (reportedLine e) w) := by
  rw [report, runOn_bind, runOn_log, ← reportedLine]
  dsimp only
  rw [runOn_bind, reply]
  cases Encoding.string (e.message ++ Text.ofString "\n") with
  | error c => rfl
  | ok shown =>
    refine (runOn_hints e.suggestions (Journaled.note (.reply (e.message ++ Text.ofString "\n"))
      (Journaled.note (reportedLine e) w))).trans ?_
    rw [reported, List.append_cons, List.append_cons]
    rfl

theorem runOn_report_of_whole {e : HelperError} (h : Json.Whole e.message) (w : World) :
    (report e).runOn w = (.ok (), reported e w) := by
  obtain ⟨shown, hshown⟩ := Encoding.string_of_whole (whole_append h (Json.whole_ofString "\n"))
  rw [runOn_report, hshown]

theorem outputOf_reported (e : HelperError) (w : World) :
    outputOf (reported e w).journal =
      outputOf w.journal ++ (e.message ++ Text.ofString "\n") := by
  have hhints : outputOf (e.suggestions.map hintLine) = [] := by
    refine List.flatMap_eq_nil_iff.2 fun line hline => ?_
    obtain ⟨hint, -, rfl⟩ := List.mem_map.1 hline
    rfl
  have hshown : outputOf (reportedLine e :: .reply (e.message ++ Text.ofString "\n") ::
      e.suggestions.map hintLine) =
      e.message ++ Text.ofString "\n" ++ outputOf (e.suggestions.map hintLine) := rfl
  rw [reported, outputOf_append, hshown, hhints, List.append_nil]

theorem runOn_report_cases (e : HelperError) (w : World) :
    (∃ t, (report e).runOn w = (.ok (), t) ∧
        outputOf t.journal = outputOf w.journal ++ (e.message ++ Text.ofString "\n")) ∨
      ∃ c t, Encoding.string (e.message ++ Text.ofString "\n") = .error c ∧
        (report e).runOn w = (.error (.foreign (.encoding c)), t) ∧ w.Quiet t := by
  rw [runOn_report]
  cases Encoding.string (e.message ++ Text.ofString "\n") with
  | ok shown => exact .inl ⟨_, rfl, outputOf_reported e w⟩
  | error c => exact .inr ⟨c, _, rfl, rfl, (advances_note w rfl).quiet⟩

section

variable {a : Action World Unit} {w t : World}

theorem runOn_reporting_of_ok (h : a.runOn w = (.ok (), t)) :
    (reporting a).runOn w = (.ok 0, t) := by
  rw [reporting, runOn_bind, runOn_attempt, h]
  rfl

theorem runOn_reporting_of_helper {e : HelperError} (h : a.runOn w = (.error (.helper e), t)) :
    (reporting a).runOn w = (report e >>= fun _ => pure 1).runOn t := by
  rw [reporting, runOn_bind, runOn_attempt, h]

theorem runOn_reporting_of_foreign {c : Cause} (h : a.runOn w = (.error (.foreign c), t)) :
    (reporting a).runOn w = (.error (.foreign c), t) := by
  rw [reporting, runOn_bind, runOn_attempt, h]
  rfl

end

/-- How a run ends in which a failure from outside escapes: abruptly, unless the user broke off or
nobody reads what is written. -/
def endingOf (c : Cause) : Ending :=
  if (Failure.foreign c).isAbort || (Failure.foreign c).isBrokenPipe then .status 1
  else .crash (.foreign c)

theorem runOn_ending_of_foreign {action : Action World Nat} {w t : World} {c : Cause}
    (h : action.runOn w = (.error (.foreign c), t)) :
    ∃ u, (ending action).runOn w = (.ok (endingOf c), u) ∧ t.Quiet u := by
  rw [ending, runOn_bind, runOn_attempt, h, endingOf]
  dsimp only
  by_cases habort : (Failure.foreign c).isAbort = true
  · rw [if_pos habort, habort]
    exact ⟨_, rfl, quiet_status _ t⟩
  · rw [if_neg habort, (Bool.not_eq_true _).mp habort]
    by_cases hpipe : (Failure.foreign c).isBrokenPipe = true
    · rw [if_pos hpipe, hpipe]
      exact ⟨t, rfl, rfl⟩
    · rw [if_neg hpipe, (Bool.not_eq_true _).mp hpipe]
      exact ⟨t, rfl, rfl⟩

theorem runOn_ending_of_crash {action : Action World Nat} {w t : World} {c : Cause}
    (h : action.runOn w = (.error (.foreign c), t)) (hc : ∀ e, c ≠ .collaborator e) :
    (ending action).runOn w = (.ok (.crash (.foreign c)), t) := by
  rw [ending, runOn_bind, runOn_attempt, h]
  cases c with
  | collaborator e => exact absurd rfl (hc e)
  | _ => rfl

/-! ## Runs -/

/-- What a request with an input comes to: the credential for the registry that the input names. -/
def outcomeOf (s : Settings) (text : Text) (w : World) : Except Failure RegistryCredential :=
  ((credentialFor s (Blank.strip (unifyLines text))).runOn { w with journal := [] }).1

inductive Escapes (s : Settings) (input : Bytes) (w : World) : Cause → Prop
  /-- The input is no text. -/
  | decoding {e : DecodeError} (undecoded : Utf8.decode input = .error e) :
    Escapes s input w (.decoding e)
  | request {text : Text} {c : Cause} (decoded : Utf8.decode input = .ok text)
    (failed : outcomeOf s text w = .error (.foreign c)) : Escapes s input w c
  /-- The message of the error that ended the request cannot be shown. -/
  | encoding {text : Text} {e : HelperError} {c : EncodeError}
    (decoded : Utf8.decode input = .ok text) (failed : outcomeOf s text w = .error (.helper e))
    (unshown : Encoding.string (e.message ++ Text.ofString "\n") = .error c) :
    Escapes s input w (.encoding c)

theorem readVerb_get : readVerb ["get"] = .ok (.get, []) := rfl

theorem runVerb_get (s : Settings) (input : Bytes) :
    runVerb .get [] input s = answerGet s input := rfl

theorem runOn_answerGet_of_text {s : Settings} {input : Bytes} {text : Text}
    (h : Utf8.decode input = .ok text) (w : World) :
    (answerGet s input).runOn w = (reporting (do
      let c ← credentialFor s (Blank.strip (unifyLines text))
      reply (credentialLine (Blank.strip (unifyLines text)) c))).runOn w := by
  rw [answerGet, inputText, h, runOn_bind, runOn_ofExcept]
  dsimp only
  rw [credentialFor, bind_assoc]

theorem whole_registry {input : Bytes} {text : Text} (h : Utf8.decode input = .ok text) :
    Json.Whole (Blank.strip (unifyLines text)) := by
  have hwhole := whole_unifyLines (Utf8.isSurrogate_of_decode h)
  refine fun symbol hsymbol => hwhole symbol ?_
  rw [Blank.strip, Blank.trimEnd, Blank.trimStart, List.mem_reverse] at hsymbol
  have hkept := (List.dropWhile_sublist _).mem hsymbol
  exact (List.dropWhile_sublist _).mem (List.mem_reverse.1 hkept)

theorem runOn_reply_credentialLine (registry : Text) (c : RegistryCredential) (w : World) :
    (reply (credentialLine registry c)).runOn w = (.ok (), Journaled.note
      (.reply (Text.ofString (credentialLine registry c) ++ Text.ofString "\n")) w) :=
  runOn_reply (Json.whole_ofString _) w

/-- A world in which a program prints a token, everything is logged and the environment names that
source alone. -/
def loggingWorld : World :=
  { Helper.printingWorld with
    environment := [("HOME", "home"), ("GCR_HELPER_TOKEN_SOURCES", "[\"gcloud\"]"),
      ("GCR_HELPER_LOG_LEVEL", "DEBUG")] }

end CommandLine

end CredentialHelper
