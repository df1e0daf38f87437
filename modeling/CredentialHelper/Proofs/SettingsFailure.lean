import CredentialHelper.CommandLine.Run
import CredentialHelper.Proofs.Effects
import CredentialHelper.Proofs.JsonString

/-!
# Settings that cannot be loaded

Values that are refused and a configuration file that is no JSON are reported like every error of
the helper.  Three things are not: token sources in the environment that are no JSON, a document in
the file that holds too long an integer or is nested too deeply, and one that gives no members.  A
run that meets one of them first ends abruptly and shows nothing (`Settings.Unforeseen`).
-/

namespace CredentialHelper

open CredentialHelper.Action

namespace Settings

/-! ## What is loaded -/

/-- The text of the user's configuration file, which is empty if there is no file; nothing if the
file cannot be located or holds no text. -/
def fileText? (w : World) : Option Text :=
  match userFile w with
  | .error _ => none
  | .ok file =>
    match Path.expandKnown? w.homes file with
    | none => none
    | some path =>
      match w.files.stat path with
      | .ok (.directory _) => some []
      | .ok (.file _ _) => (w.files.readText path).toOption
      | .error errno => if errno = .notFound ∨ errno = .notDirectory then some [] else none

def membersOfText (text : Text) : Except Cause Members :=
  if (Blank.strip text).isEmpty then .ok []
  else (Json.parse text).mapError Cause.document >>= membersOf

theorem ofFile_eq {w : World} {text file : Text} (htext : fileText? w = some text)
    (hfile : userFile w = .ok file) : ofFile w.homes w.files file = membersOfText text := by
  rw [fileText?, hfile] at htext
  dsimp only at htext
  rw [ofFile]
  cases hpath : Path.expandKnown? w.homes file with
  | none =>
    rw [hpath] at htext
    cases htext
  | some path =>
    rw [hpath] at htext
    dsimp only at htext ⊢
    cases hstat : w.files.stat path with
    | error errno =>
      rw [hstat] at htext
      dsimp only at htext ⊢
      split at htext
      · next habsent =>
        cases htext
        rw [if_pos habsent]
        rfl
      · cases htext
    | ok entry =>
      rw [hstat] at htext
      cases entry with
      | directory mode =>
        cases htext
        rfl
      | file mode content =>
        dsimp only at htext ⊢
        cases hread : w.files.readText path with
        | error c =>
          rw [hread] at htext
          cases htext
        | ok t =>
          rw [hread] at htext
          cases htext
          rfl

/-- The settings in terms of the text of the configuration file and of the environment. -/
theorem load_eq {w : World} {text : Text} (htext : fileText? w = some text) :
    load [] w = membersOfText text >>= fun filed => ofEnvironment w.environment >>= fun given =>
      (ofMembers (given ++ recognized filed)).mapError .invalid := by
  have hfile : ∃ file, userFile w = .ok file := by
    cases hfile : userFile w with
    | ok file => exact ⟨file, rfl⟩
    | error e =>
      rw [fileText?, hfile] at htext
      cases htext
  obtain ⟨file, hfile⟩ := hfile
  have hnone : recognized [] = [] := rfl
  rw [load, hfile]
  show (ofFile w.homes w.files file >>= _) = _
  rw [ofFile_eq htext hfile, hnone]
  rfl

/-! ## How the layers fail -/

/-- A cause that no report of invalid settings has. -/
inductive Escaping : Cause → Prop
  /-- The token sources in the environment are no JSON. -/
  | setting (name : String) : Escaping (.setting name)
  | longInteger (digits : Nat) : Escaping (.document (.longInteger digits))
  | tooDeep (isArray : Bool) : Escaping (.document (.tooDeep isArray))
  /-- What should be a list of pairs is not. -/
  | nature (message : String) : Escaping (.nature message)
  | argument (message : String) : Escaping (.argument message)
  /-- A key is no text. -/
  | operation (message : String) : Escaping (.operation message)

inductive Reported : Cause → Prop
  | invalid (r : Validation.Report) : Reported (.invalid r)
  | malformed (e : SyntaxError) : Reported (.document (.malformed e))

theorem exists_of_mapM_eq_error {ε α β : Type} {f : α → Except ε β} {l : List α} {e : ε}
    (h : l.mapM f = .error e) : ∃ x, f x = .error e := by
  induction l with
  | nil => cases h
  | cons x l ih =>
    rw [List.mapM_cons] at h
    rcases cases_of_bind_eq_error h with hx | ⟨y, -, h⟩
    · exact ⟨x, hx⟩
    · rcases cases_of_bind_eq_error h with hl | ⟨ys, -, h⟩
      · exact ih hl
      · cases h

theorem escaping_of_pairOf {index : Nat} {element : Json} {c : Cause}
    (h : pairOf index element = .error c) : Escaping c := by
  rw [pairOf] at h
  split at h
  · cases h
    exact .nature _
  · cases h
    exact .nature _
  · cases h
    exact .nature _
  · cases h
  · cases h
    exact .argument _

theorem escaping_of_memberOf {pair : Json × Json} {c : Cause} (h : memberOf pair = .error c) :
    Escaping c := by
  rw [memberOf.eq_def] at h
  split at h
  · cases h
  · cases h
    exact .operation _

theorem escaping_of_membersOf {document : Json} {c : Cause} (h : membersOf document = .error c) :
    Escaping c := by
  rw [membersOf.eq_def] at h
  split at h
  · cases h
  · rcases cases_of_bind_eq_error h with hpairs | ⟨pairs, -, h⟩
    · obtain ⟨p, hp⟩ := exists_of_mapM_eq_error hpairs
      exact escaping_of_pairOf hp
    · rcases cases_of_bind_eq_error h with hmembers | ⟨members, -, h⟩
      · obtain ⟨p, hp⟩ := exists_of_mapM_eq_error hmembers
        exact escaping_of_memberOf hp
      · cases h
  · cases h
    exact .nature _

/-- The text of a configuration file is refused without a report: it is JSON with too long an
integer or too many levels, or it is JSON that gives no members. -/
def Unforeseen (text : Text) : Prop :=
  (Blank.strip text).isEmpty = false ∧
    ((∃ digits, Json.parse text = .error (.longInteger digits)) ∨
      (∃ isArray, Json.parse text = .error (.tooDeep isArray)) ∨
      ∃ v c, Json.parse text = .ok v ∧ membersOf v = .error c)

def SourcesRefused (environment : List (Text × Text)) : Prop :=
  ∃ text e, text? environment "token_sources" = some text ∧ Json.parse text = .error e

theorem membersOfText_cases (text : Text) :
    (∃ members, membersOfText text = .ok members ∧ ¬Unforeseen text) ∨
      (∃ c, membersOfText text = .error c ∧ Reported c ∧ ¬Unforeseen text) ∨
      ∃ c, membersOfText text = .error c ∧ Escaping c ∧ Unforeseen text := by
  rw [membersOfText, Unforeseen]
  by_cases hblank : (Blank.strip text).isEmpty = true
  · rw [if_pos hblank, hblank]
    exact .inl ⟨[], rfl, fun h => Bool.noConfusion h.1⟩
  · rw [if_neg hblank]
    rw [Bool.not_eq_true] at hblank
    cases hparse : Json.parse text with
    | error e =>
      cases e with
      | malformed e => exact .inr (.inl ⟨_, rfl, .malformed e, by simp⟩)
      | longInteger digits => exact .inr (.inr ⟨_, rfl, .longInteger digits, hblank, by simp⟩)
      | tooDeep isArray => exact .inr (.inr ⟨_, rfl, .tooDeep isArray, hblank, by simp⟩)
    | ok v =>
      show (∃ members, membersOf v = .ok members ∧ _) ∨ (∃ c, membersOf v = .error c ∧ _) ∨
        ∃ c, membersOf v = .error c ∧ _
      cases hmembers : membersOf v with
      | error c =>
        exact .inr (.inr ⟨c, rfl, escaping_of_membersOf hmembers, hblank, by simp [hmembers]⟩)
      | ok members => exact .inl ⟨members, rfl, by simp [hmembers]⟩

theorem ofEnvironment_cases (environment : List (Text × Text)) :
    (∃ members, ofEnvironment environment = .ok members ∧ ¬SourcesRefused environment) ∨
      ∃ c, ofEnvironment environment = .error c ∧ Escaping c ∧ SourcesRefused environment := by
  rw [ofEnvironment, SourcesRefused]
  cases htext : text? environment "token_sources" with
  | none => exact .inl ⟨_, rfl, by simp⟩
  | some text =>
    dsimp only
    rw [sourcesOfText]
    cases hparse : Json.parse text with
    | ok v =>
      have haccepted : ¬∃ text' e, some text = some text' ∧ Json.parse text' = .error e := by
        rintro ⟨text', e, htext', he⟩
        cases htext'
        rw [hparse] at he
        cases he
      cases v with
      | null => exact .inl ⟨_, rfl, haccepted⟩
      | _ => exact .inl ⟨_, rfl, haccepted⟩
    | error e =>
      cases e with
      | malformed e => exact .inr ⟨_, rfl, .setting _, _, _, rfl, hparse⟩
      | longInteger digits => exact .inr ⟨_, rfl, .setting _, _, _, rfl, hparse⟩
      | tooDeep isArray => exact .inr ⟨_, rfl, .tooDeep _, _, _, rfl, hparse⟩

/-- A failure that is not reported is the first one that is met: the file is read before the
environment. -/
def FailsUnreported (text : Text) (environment : List (Text × Text)) : Prop :=
  Unforeseen text ∨
    (∃ members, membersOfText text = .ok members) ∧ SourcesRefused environment

theorem load_cases {w : World} {text : Text} (htext : fileText? w = some text) :
    (∃ s, load [] w = .ok s ∧ ¬FailsUnreported text w.environment) ∨
      (∃ c, load [] w = .error c ∧ Reported c ∧ ¬FailsUnreported text w.environment) ∨
      ∃ c, load [] w = .error c ∧ Escaping c ∧ FailsUnreported text w.environment := by
  rw [load_eq htext]
  rcases membersOfText_cases text with ⟨filed, hfiled, hforeseen⟩ | ⟨c, hfile, hc, hforeseen⟩ |
    ⟨c, hfile, hc, hunforeseen⟩
  · rw [hfiled]
    rcases ofEnvironment_cases w.environment with
      ⟨given, hgiven, haccepted⟩ | ⟨c, hgiven, hc, hrefused⟩
    · have hreported : ¬FailsUnreported text w.environment :=
        fun h => h.elim hforeseen fun h => haccepted h.2
      rw [hgiven]
      show (∃ s, (ofMembers (given ++ recognized filed)).mapError Cause.invalid = .ok s ∧ _) ∨
        (∃ c, (ofMembers (given ++ recognized filed)).mapError Cause.invalid = .error c ∧ _) ∨ _
      cases ofMembers (given ++ recognized filed) with
      | ok s => exact .inl ⟨s, rfl, hreported⟩
      | error r => exact .inr (.inl ⟨_, rfl, .invalid r, hreported⟩)
    · rw [hgiven]
      exact .inr (.inr ⟨c, rfl, hc, .inr ⟨⟨filed, hfiled⟩, hrefused⟩⟩)
  · rw [hfile]
    refine .inr (.inl ⟨c, rfl, hc, ?_⟩)
    rintro (h | ⟨⟨members, hmembers⟩, -⟩)
    · exact hforeseen h
    · rw [hfile] at hmembers
      cases hmembers
  · rw [hfile]
    exact .inr (.inr ⟨c, rfl, hc, .inl hunforeseen⟩)

end Settings

/-! ## Runs -/

theorem Encoding.string_of_whole {t : Text} (h : Json.Whole t) : ∃ s, string t = .ok s := by
  have hnone (position : Nat) : refused? (fun _ => false) position t = none := by
    induction t generalizing position with
    | nil => rfl
    | cons symbol rest ih =>
      cases symbol with
      | char c => exact ih (fun s hs => h s (List.mem_cons_of_mem _ hs)) _
      | surrogate n => cases h _ List.mem_cons_self
  rw [string, characters, hnone]
  exact ⟨_, rfl⟩

namespace CommandLine

def invalid (cause : Cause) : HelperError :=
  .root ⟨.config, "invalid configuration", [], []⟩ (some cause)

theorem settings_of_reported {w : World} {c : Cause} (h : Settings.load [] w = .error c)
    (hc : Settings.Reported c) : settings w = .error (.helper (invalid c)) := by
  rw [settings, h]
  cases hc <;> rfl

theorem settings_of_escaping {w : World} {c : Cause} (h : Settings.load [] w = .error c)
    (hc : Settings.Escaping c) : settings w = .error (.foreign c) := by
  rw [settings, h]
  cases hc <;> rfl

theorem whole_append {s t : Text} (hs : Json.Whole s) (ht : Json.Whole t) : Json.Whole (s ++ t) :=
  fun a ha => (List.mem_append.1 ha).elim (hs a) (ht a)

theorem whole_message {c : Cause} (h : Settings.Reported c) : Json.Whole (invalid c).message := by
  have hcause : Json.Whole c.message := by
    cases h with
    | invalid r => exact Json.whole_ofString _
    | malformed e => exact Json.whole_ofString _
  refine whole_append (whole_append (Json.whole_ofString _) (Json.whole_ofString _)) ?_
  exact whole_append (whole_append (Json.whole_ofString _) (Json.whole_ofString _)) hcause

/-- A line that can be encoded is shown to the calling program. -/
theorem runOn_reply {line : Text} (h : Json.Whole line) (w : World) :
    (reply line).runOn w =
      (.ok (), Journaled.note (.reply (line ++ Text.ofString "\n")) w) := by
  obtain ⟨s, hs⟩ := Encoding.string_of_whole (whole_append h (Json.whole_ofString "\n"))
  unfold reply
  simp only [hs]
  rfl

theorem run_of_plan {arguments : List Text} {input : Bytes} {w t : World} {level : LogLevel}
    {action : Action World Nat} {ended : Ending} (h : plan arguments input w = (level, action))
    (hrun : (ending action).runOn { w with journal := [] } = (.ok ended, t)) :
    (run arguments input w).1.ending = ended ∧
      (run arguments input w).1.output = outputOf t.journal ∧ (run arguments input w).2 = t := by
  rw [run, h]
  dsimp only
  rw [hrun]
  exact ⟨rfl, rfl, rfl⟩

theorem runOn_ending_of_ok {action : Action World Nat} {w t : World} {n : Nat}
    (h : action.runOn w = (.ok n, t)) : (ending action).runOn w = (.ok (.status n), t) := by
  rw [ending, runOn_bind, runOn_attempt, h]
  rfl

def reportedLine (e : HelperError) : Line :=
  .log ⟨.debug, "main", e.kind.name ++ ": " ++ e.detail⟩

theorem runOn_reporting_invalid {c : Cause} (hc : Settings.Reported c) (w : World) :
    (reporting (Action.fail (.helper (invalid c)))).runOn w =
      (.ok 1, Journaled.note (.reply ((invalid c).message ++ Text.ofString "\n"))
        (Journaled.note (reportedLine (invalid c)) w)) := by
  have hreport : (report (invalid c)).runOn w =
      (.ok (), Journaled.note (.reply ((invalid c).message ++ Text.ofString "\n"))
        (Journaled.note (reportedLine (invalid c)) w)) := by
    rw [report, runOn_bind, runOn_log]
    dsimp only
    rw [runOn_bind, runOn_reply (whole_message hc)]
    rfl
  rw [reporting, runOn_bind, runOn_attempt, runOn_fail]
  dsimp only
  rw [runOn_bind, hreport]
  rfl

theorem runOn_ending_of_escaping {c : Cause} (hc : Settings.Escaping c) (w : World) :
    (ending (reporting (Action.fail (.foreign c)))).runOn w = (.ok (.crash (.foreign c)), w) := by
  cases hc <;> rfl

section

variable {arguments rest : List Text} {verb : Verb} {w : World} {c : Cause}

theorem plan_of_load {s : Settings} (hverb : readVerb arguments = .ok (verb, rest))
    (h : Settings.load [] w = .ok s) (input : Bytes) :
    plan arguments input w = (s.logLevel, runVerb verb rest input s) := by
  have hsettings : settings w = .ok s := by
    rw [settings, h]
    rfl
  rw [plan, hverb]
  dsimp only
  rw [hsettings]

theorem plan_of_error {f : Failure} (hverb : readVerb arguments = .ok (verb, rest))
    (h : settings w = .error f) (input : Bytes) :
    plan arguments input w = (.warning, reporting (Action.fail f)) := by
  rw [plan, hverb]
  dsimp only
  rw [h]

theorem run_of_reported (hverb : readVerb arguments = .ok (verb, rest))
    (h : Settings.load [] w = .error c) (hc : Settings.Reported c) (input : Bytes) :
    (run arguments input w).1.ending = .status 1 ∧
      (run arguments input w).1.output = (invalid c).message ++ Text.ofString "\n" := by
  have hrun := runOn_ending_of_ok (runOn_reporting_invalid hc { w with journal := [] })
  obtain ⟨hended, hshown, -⟩ :=
    run_of_plan (plan_of_error hverb (settings_of_reported h hc) input) hrun
  exact ⟨hended, hshown.trans (List.append_nil _)⟩

theorem run_of_escaping (hverb : readVerb arguments = .ok (verb, rest))
    (h : Settings.load [] w = .error c) (hc : Settings.Escaping c) (input : Bytes) :
    (run arguments input w).1.ending = .crash (.foreign c) ∧
      (run arguments input w).1.output = [] := by
  obtain ⟨hended, hshown, -⟩ :=
    run_of_plan (plan_of_error hverb (settings_of_escaping h hc) input)
      (runOn_ending_of_escaping hc { w with journal := [] })
  exact ⟨hended, hshown⟩

/-- A run whose first word is known starts with the settings that it loads, or it ends with status 1
and says that they are invalid, unless they fail in a way that is not reported: then, and only then,
it ends abruptly and shows nothing. -/
theorem run_loads_or_reports {text : Text} (hverb : readVerb arguments = .ok (verb, rest))
    (htext : Settings.fileText? w = some text) (input : Bytes) :
    (¬Settings.FailsUnreported text w.environment ∧
      ((∃ s, Settings.load [] w = .ok s ∧
          plan arguments input w = (s.logLevel, runVerb verb rest input s)) ∨
        ∃ c, Settings.load [] w = .error c ∧ (run arguments input w).1.ending = .status 1 ∧
          (run arguments input w).1.output = (invalid c).message ++ Text.ofString "\n")) ∨
    (Settings.FailsUnreported text w.environment ∧
      ∃ c, Settings.load [] w = .error c ∧ Settings.Escaping c ∧
        (run arguments input w).1.ending = .crash (.foreign c) ∧
        (run arguments input w).1.output = []) := by
  rcases Settings.load_cases htext with ⟨s, hload, hforeseen⟩ | ⟨c, hload, hc, hforeseen⟩ |
    ⟨c, hload, hc, hfails⟩
  · exact .inl ⟨hforeseen, .inl ⟨s, hload, plan_of_load hverb hload input⟩⟩
  · exact .inl ⟨hforeseen, .inr ⟨c, hload, run_of_reported hverb hload hc input⟩⟩
  · exact .inr ⟨hfails, c, hload, hc, run_of_escaping hverb hload hc input⟩

end

/-- A world in which the token sources stand in the environment with a comma between them. -/
def commaWorld : World :=
  { World.bare with
    environment := [("HOME", "home"), ("GCR_HELPER_TOKEN_SOURCES", "env,store")] }

theorem fileText?_commaWorld : Settings.fileText? commaWorld = some [] := by decide +kernel

theorem readVerb_version : readVerb ["version"] = .ok (.version, []) := rfl

theorem text?_commaWorld :
    Settings.text? commaWorld.environment "token_sources" = some (Text.ofString "env,store") := by
  decide +kernel

theorem document_comma :
    Json.Reader.document "env,store" = .error (.flaw .expectingValue 9) := by
  have hskip : Json.Reader.skipSpace "env,store" = Text.ofString "env,store" := by decide +kernel
  have hlength : 2 * (Text.ofString "env,store").length + 2 = 20 := by decide
  have hscalar : Json.Reader.scalar "env,store" = .error (.flaw .expectingValue 9) := rfl
  have hvalue : Json.Reader.value 20 0 "env,store" = Json.Reader.scalar "env,store" := rfl
  rw [Json.Reader.document.eq_def]
  split
  · next heq =>
    have hhead : Symbol.char 'e' = .char '\ufeff' := (List.cons.inj heq).1
    exact absurd hhead (by decide)
  · rw [hskip, hlength, hvalue, hscalar]

theorem parse_comma : ∃ e, Json.parse "env,store" = .error (.malformed e) := by
  refine ⟨Json.Reader.locate "env,store" .expectingValue 9, ?_⟩
  rw [Json.parse, document_comma]

theorem sourcesOfText_comma :
    Settings.sourcesOfText "env,store" = .error (.setting "token_sources") := by
  obtain ⟨e, he⟩ := parse_comma
  rw [Settings.sourcesOfText, he]

theorem load_commaWorld : Settings.load [] commaWorld = .error (.setting "token_sources") := by
  have hfiled : Settings.membersOfText [] = .ok [] := rfl
  have hgiven : Settings.ofEnvironment commaWorld.environment =
      .error (.setting "token_sources") := by
    rw [Settings.ofEnvironment, text?_commaWorld]
    simp only [sourcesOfText_comma, bind, Except.bind]
  rw [Settings.load_eq fileText?_commaWorld, hfiled]
  simp only [hgiven, bind, Except.bind]

theorem failsUnreported_commaWorld : Settings.FailsUnreported [] commaWorld.environment := by
  obtain ⟨e, he⟩ := parse_comma
  have hfiled : Settings.membersOfText [] = .ok [] := rfl
  exact .inr ⟨⟨[], hfiled⟩, Text.ofString "env,store", _, text?_commaWorld, he⟩

theorem run_loads_or_reports_commaWorld :
    readVerb ["version"] = .ok (.version, []) ∧ Settings.fileText? commaWorld = some [] ∧
      ∃ c, Settings.Escaping c ∧
        (run ["version"] [] commaWorld).1.ending = .crash (.foreign c) := by
  refine ⟨readVerb_version, fileText?_commaWorld, ?_⟩
  rcases run_loads_or_reports readVerb_version fileText?_commaWorld [] with
    ⟨hforeseen, -⟩ | ⟨-, c, -, hc, hended, -⟩
  · exact absurd failsUnreported_commaWorld hforeseen
  · exact ⟨c, hc, hended⟩

theorem run_crashes_commaWorld :
    readVerb ["version"] = .ok (.version, []) ∧ Settings.fileText? commaWorld = some [] ∧
      Settings.load [] commaWorld = .error (.setting "token_sources") ∧
      (run ["version"] [] commaWorld).1.ending = .crash (.foreign (.setting "token_sources")) ∧
      (run ["version"] [] commaWorld).1.output = [] :=
  ⟨readVerb_version, fileText?_commaWorld, load_commaWorld,
    run_of_escaping readVerb_version load_commaWorld (.setting _) []⟩

end CommandLine

end CredentialHelper
