import CredentialHelper.Proofs.GetReply
import CredentialHelper.Proofs.RequestFailures

/-!
# Hints that are shown

Every level of an error may carry hints, and those of the outermost level are shown to the user.  A
level around another error repeats the hints of the error below it, or else drops them: where the
program that prints a token cannot be run, and where there is something to do before a login
(`CommandLine.run_get_hints`).
-/

namespace CredentialHelper

open CredentialHelper.Action World

/-! ## Hints at all levels -/

namespace HelperError

def hints : HelperError → List Text
  | .root entry _ => entry.suggestions
  | .wrap entry cause => entry.suggestions ++ cause.hints

/-- The error has dropped the hints that it came with. -/
inductive Drops : HelperError → Prop
  /-- The program that prints a token cannot be run. -/
  | program {c : Command} {cause : Cause} {e : HelperError}
    (h : GcloudSource.wrapped (c.cannotRun cause) = .helper e) : Drops e
  | unretrieved {e : HelperError} (h : Drops e) : Drops (Coordinator.unretrieved e)
  /-- There is something to do before a login can succeed. -/
  | login {message : Text} {advice : List Text} {e : HelperError}
    (h : advice = LoginClient.configureFirst ∨ advice = LoginClient.revokeFirst)
    (he : Coordinator.wrapped .authenticationFailed "unable to authenticate user"
      (.plain .login message advice) = .helper e) : Drops e

theorem hints_unretrieved (e : HelperError) :
    (Coordinator.unretrieved e).hints = e.suggestions ++ e.hints := rfl

theorem suggestions_unretrieved (e : HelperError) :
    (Coordinator.unretrieved e).suggestions = e.suggestions := rfl

/-- All hints are dropped, and there are some. -/
theorem Drops.hints {e : HelperError} (h : e.Drops) : e.suggestions = [] ∧ e.hints ≠ [] := by
  induction h with
  | program h =>
    cases h
    exact ⟨rfl, List.cons_ne_nil _ _⟩
  | unretrieved _ ih =>
    obtain ⟨hnone, hsome⟩ := ih
    refine ⟨hnone, ?_⟩
    rw [hints_unretrieved, hnone]
    exact hsome
  | login h he =>
    cases he
    rcases h with rfl | rfl
    · exact ⟨rfl, List.cons_ne_nil _ _⟩
    · exact ⟨rfl, List.cons_ne_nil _ _⟩

theorem Drops.not_subset {e : HelperError} (h : e.Drops) : ¬e.hints ⊆ e.suggestions := by
  intro hsubset
  obtain ⟨hnone, hsome⟩ := h.hints
  rw [hnone] at hsubset
  exact hsome (List.subset_nil.1 hsubset)

/-- The outermost level has all hints of the error, or they were dropped. -/
def Accounts (e : HelperError) : Prop := e.hints ⊆ e.suggestions ∨ e.Drops

theorem accounts_root (entry : ErrorEntry) (cause : Option Cause) : (root entry cause).Accounts :=
  .inl (List.Subset.refl entry.suggestions)

theorem accounts_wrap_of_nil (entry : ErrorEntry) {e : HelperError} (h : e.hints = []) :
    (wrap entry e).Accounts := by
  refine .inl ?_
  rw [hints, h, List.append_nil]
  exact List.Subset.refl entry.suggestions

theorem Accounts.unretrieved {e : HelperError} (h : e.Accounts) :
    (Coordinator.unretrieved e).Accounts := by
  rcases h with hkept | hdrops
  · refine .inl ?_
    rw [hints_unretrieved, suggestions_unretrieved]
    exact List.append_subset.2 ⟨List.Subset.refl _, hkept⟩
  · exact .inr (.unretrieved hdrops)

end HelperError

/-! ## The failures of a request -/

open HelperError

section

variable {e : HelperError} {f : Failure} {identifiers : List Text}

theorem Failure.Single.accounts {p : ErrorEntry → Prop} (h : Single p (.helper e)) :
    e.Accounts := by
  cases h with
  | level h cause => exact accounts_root _ cause

/-- A source drops the hint about a program that cannot be run, and nothing else. -/
theorem SourceKind.Fails.accounts (h : SourceKind.Fails f) (hf : f = .helper e) :
    e.Accounts := by
  cases h with
  | single h =>
    subst hf
    exact h.accounts
  | program h =>
    cases h with
    | foreign cause => cases hf
    | cannotRun cause => exact .inr (.program hf)
    | ended message context cause =>
      cases hf
      exact accounts_wrap_of_nil _ rfl

theorem SourceKind.accounts_of_parse {identifier : Text} (h : parse identifier = .error e) :
    e.Accounts := by
  rw [parse] at h
  split at h
  · cases h
  · cases h
    exact accounts_root _ none

theorem Resolver.Fails.accounts (h : Resolver.Fails identifiers (.helper e)) : e.Accounts := by
  cases h with
  | source h => exact h.accounts rfl
  | unknown hmem h => exact SourceKind.accounts_of_parse h

/-- A login drops its advice. -/
theorem LoginClient.Fails.accounts (h : LoginClient.Fails f)
    (hf : Coordinator.wrapped .authenticationFailed "unable to authenticate user" f = .helper e) :
    e.Accounts := by
  cases h with
  | foreign c => cases hf
  | incomplete message cause =>
    cases hf
    exact accounts_wrap_of_nil _ rfl
  | advised message h => exact .inr (.login h hf)

theorem Coordinator.accounts_unsaved (h : f.Single ErrorEntry.Unwritten)
    (hf : wrapped .persist "unable to persist access token" f = .helper e) : e.Accounts := by
  cases h with
  | foreign c => cases hf
  | level h cause =>
    cases hf
    exact accounts_wrap_of_nil _ h.suggestions

theorem Helper.Fails.accounts (h : Helper.Fails identifiers f) (hf : f = .helper e) :
    e.Accounts := by
  cases h with
  | pass h =>
    subst hf
    exact h.accounts
  | unretrieved h =>
    cases hf
    exact h.accounts.unretrieved
  | login h => exact h.accounts hf
  | save h => exact Coordinator.accounts_unsaved h hf
  | noSources =>
    cases hf
    exact accounts_root _ none

end

namespace CommandLine

/-! ## Runs -/

theorem accounts_of_outcomeOf {s : Settings} {text : Text} {w : World} {e : HelperError}
    (hw : w.AllForeign) (h : outcomeOf s text w = .error (.helper e)) : e.Accounts := by
  rw [outcomeOf, runOn_credentialFor] at h
  cases hstore : s.store w.homes with
  | error c =>
    have hhomes : s.store { w with journal := [] }.homes = .error c := hstore
    rw [hhomes] at h
    cases h
  | ok store =>
    have hhomes : s.store { w with journal := [] }.homes = .ok store := hstore
    rw [hhomes] at h
    have hcreated : (Journaled.note (createdLine s) { w with journal := [] } : World).AllForeign :=
      ⟨⟨hw.sources.http, hw.sources.programs, hw.sources.detections⟩, hw.logins⟩
    exact ((Helper.ends_get_fails s store _ _ hcreated).2.2 _ h).accounts rfl

def hintsShown (hints : List Text) : Text :=
  Text.ofString (Text.escaped (hints.flatMap fun hint => "hint: " ++ hint ++ "\n"))

theorem messagesOf_append (level : LogLevel) (a b : List Line) :
    messagesOf level (a ++ b) = messagesOf level a ++ messagesOf level b := by
  simp only [messagesOf, Text.escaped, List.flatMap_append, Text.ofString, String.toList_ofList,
    List.map_append]

theorem messagesOf_hints (level : LogLevel) (hints : List Text) :
    messagesOf level (hints.map hintLine) = hintsShown hints := by
  simp only [messagesOf, hintsShown, List.flatMap_map, hintLine]

theorem messagesOf_reported (level : LogLevel) (e : HelperError) (w : World) :
    ∃ earlier, messagesOf level (reported e w).journal = earlier ++ hintsShown e.suggestions := by
  rw [reported, List.append_cons, List.append_cons, messagesOf_append, messagesOf_hints]
  exact ⟨_, rfl⟩

theorem messages_of_plan {arguments : List Text} {input : Bytes} {w t : World} {level : LogLevel}
    {action : Action World Nat} {ended : Ending} (h : plan arguments input w = (level, action))
    (hrun : (ending action).runOn { w with journal := [] } = (.ok ended, t)) :
    (run arguments input w).1.messages = messagesOf level t.journal := by
  rw [run, h]
  dsimp only
  rw [hrun]

theorem runOn_answerGet_of_error {s : Settings} {input : Bytes} {text : Text} {w : World}
    {e : HelperError} (hdecode : Utf8.decode input = .ok text)
    (he : outcomeOf s text w = .error (.helper e)) :
    ∃ t, (answerGet s input).runOn { w with journal := [] } =
      (report e >>= fun _ => pure 1).runOn t := by
  have hanswer := runOn_answerGet_of_text (s := s) hdecode { w with journal := [] }
  rcases hfor : (credentialFor s (Blank.strip (unifyLines text))).runOn { w with journal := [] }
    with ⟨r, t⟩
  have hr : r = .error (.helper e) := (congrArg Prod.fst hfor).symm.trans he
  rw [hr] at hfor
  exact ⟨t, hanswer.trans (runOn_reporting_of_helper (by rw [runOn_bind, hfor]))⟩

/-- A request that ends with an error of the helper shows the hints of its outermost level.  These
are all hints that the error carries at any level, unless it has dropped them: then it shows none.
Nothing is shown where the message of the error cannot be encoded. -/
theorem run_get_hints {s : Settings} {w : World} (hload : Settings.load [] w = .ok s)
    (hw : w.AllForeign) {input : Bytes} {text : Text} (hdecode : Utf8.decode input = .ok text)
    {e : HelperError} (he : outcomeOf s text w = .error (.helper e)) :
    (e.hints ⊆ e.suggestions ↔ ¬e.Drops) ∧ (e.Drops → e.suggestions = []) ∧
      (((run ["get"] input w).1.ending = .status 1 ∧
          ∃ earlier, (run ["get"] input w).1.messages = earlier ++ hintsShown e.suggestions) ∨
        ∃ c, Encoding.string (e.message ++ Text.ofString "\n") = .error c ∧
          (run ["get"] input w).1.ending = .crash (.foreign (.encoding c))) := by
  have haccounts := accounts_of_outcomeOf hw he
  refine ⟨⟨fun hkept hdrops => hdrops.not_subset hkept, haccounts.resolve_right⟩,
    fun hdrops => hdrops.hints.1, ?_⟩
  have hplan := plan_of_load readVerb_get hload input
  rw [runVerb_get] at hplan
  -- the error is reported in the world that the request left
  obtain ⟨t, hanswer⟩ := runOn_answerGet_of_error hdecode he
  rw [runOn_bind, runOn_report] at hanswer
  cases hshown : Encoding.string (e.message ++ Text.ofString "\n") with
  | ok shown =>
    rw [hshown] at hanswer
    have hended := runOn_ending_of_ok hanswer
    obtain ⟨earlier, hhints⟩ := messagesOf_reported s.logLevel e t
    exact .inl ⟨(run_of_plan hplan hended).1, earlier, (messages_of_plan hplan hended).trans hhints⟩
  | error c =>
    rw [hshown] at hanswer
    exact .inr ⟨c, rfl, (run_of_plan hplan (runOn_ending_of_crash hanswer nofun)).1⟩

/-! ## Two requests without a credential -/

def hintsOf {α : Type} : Except Failure α → Option (List Text × List Text)
  | .error (.helper e) => some (e.hints, e.suggestions)
  | _ => none

theorem exists_of_hintsOf {α : Type} {r : Except Failure α} {hints suggestions : List Text}
    (h : hintsOf r = some (hints, suggestions)) :
    ∃ e, r = .error (.helper e) ∧ e.hints = hints ∧ e.suggestions = suggestions := by
  rcases r with (e | c) | x
  · cases h
    exact ⟨e, rfl, rfl, rfl⟩
  · cases h
  · cases h

/-- A world in which nobody answers and the environment names one source. -/
def sourceWorld (source : String) : World :=
  { World.bare with
    environment := [("HOME", "home"),
      ("GCR_HELPER_TOKEN_SOURCES", Text.ofString ("[\"" ++ source ++ "\"]"))] }

def sourceSettings (source : String) : Settings := { tokenSources := [Text.ofString source] }

theorem allForeign_sourceWorld (source : String) : (sourceWorld source).AllForeign where
  sources :=
    { http := ⟨nofun, fun _ h => ⟨_, (Except.error.inj h).symm⟩⟩
      programs := ⟨nofun, nofun⟩
      detections := ⟨nofun, fun _ h => ⟨_, (Except.error.inj h).symm⟩, nofun⟩ }
  logins := ⟨nofun, fun _ h => ⟨_, (Except.error.inj h).symm⟩⟩

theorem load_sourceWorld {source : String}
    (h : (Settings.load [] (sourceWorld source)).toOption = some (sourceSettings source)) :
    Settings.load [] (sourceWorld source) = .ok (sourceSettings source) := by
  cases hload : Settings.load [] (sourceWorld source) with
  | error c =>
    rw [hload] at h
    cases h
  | ok s =>
    rw [hload] at h
    exact congrArg Except.ok (Option.some.inj h)

/-- Without a stored credential the hint of the store is kept and shown. -/
theorem run_get_hints_emptyStore :
    Settings.load [] (sourceWorld "store") = .ok (sourceSettings "store") ∧
      (∃ e, outcomeOf (sourceSettings "store") "gcr.io" (sourceWorld "store") =
          .error (.helper e) ∧ e.hints ⊆ e.suggestions) ∧
      ∃ earlier, (run ["get"] (Utf8.encode "gcr.io") (sourceWorld "store")).1.messages =
        earlier ++ hintsShown StoreFile.loginFirst := by
  have hload : Settings.load [] (sourceWorld "store") = .ok (sourceSettings "store") :=
    load_sourceWorld (by decide +kernel)
  have hstatus : (match (run ["get"] (Utf8.encode "gcr.io") (sourceWorld "store")).1.ending with
      | .crash _ => false
      | .status _ => true) = true := by decide +kernel
  have hhints : hintsOf (outcomeOf (sourceSettings "store") "gcr.io" (sourceWorld "store")) =
      some (StoreFile.loginFirst ++ StoreFile.loginFirst, StoreFile.loginFirst) := by
    decide +kernel
  obtain ⟨e, he, -, hsuggestions⟩ := exists_of_hintsOf hhints
  obtain ⟨hkept, hdrops, hshows⟩ := run_get_hints hload (allForeign_sourceWorld _)
    (Utf8.decode_encode "gcr.io") he
  have hsome : e.suggestions ≠ [] := hsuggestions ▸ List.cons_ne_nil _ _
  refine ⟨hload, ⟨e, he, hkept.2 fun h => hsome (hdrops h)⟩, ?_⟩
  rw [hsuggestions] at hshows
  rcases hshows with ⟨-, hshown⟩ | ⟨c, -, hcrash⟩
  · exact hshown
  · rw [hcrash] at hstatus
    cases hstatus

/-- Where the program that prints a token is absent, what to do about it is not shown. -/
theorem run_get_absentProgram :
    Settings.load [] (sourceWorld "gcloud") = .ok (sourceSettings "gcloud") ∧
      (sourceWorld "gcloud").AllForeign ∧
      (∃ e, outcomeOf (sourceSettings "gcloud") "gcr.io" (sourceWorld "gcloud") =
          .error (.helper e) ∧
        e.hints = Command.installFirst ∧ e.suggestions = []) ∧
      (run ["get"] (Utf8.encode "gcr.io") (sourceWorld "gcloud")).1.messages = [] :=
  ⟨load_sourceWorld (by decide +kernel), allForeign_sourceWorld _,
    exists_of_hintsOf (by decide +kernel), by decide +kernel⟩

end CommandLine

end CredentialHelper
