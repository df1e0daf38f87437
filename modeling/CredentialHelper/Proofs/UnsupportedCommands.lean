import CredentialHelper.Proofs.GetReply

/-!
# The commands that are not offered

The protocol has three commands that the helper refuses: to list, to store and to erase credentials.
A run of one of them changes nothing and asks nobody.  It answers with the one message that the
operation is unimplemented, unless its input or the path of the store cannot be read; a payload that
is no document is reported to the user instead.
-/

namespace CredentialHelper

open CredentialHelper.Action World

namespace CommandLine

inductive Unsupported where
  | list
  | store
  | erase
  deriving DecidableEq, Repr

namespace Unsupported

def word : Unsupported → String
  | list => "list"
  | store => "store"
  | erase => "erase"

def operation : Unsupported → String
  | list => "list"
  | store => "add"
  | erase => "delete"

def answer (s : Settings) (input : Bytes) : Unsupported → Action World Nat
  | list => answerList s
  | store => answerStore s input
  | erase => answerErase s input

def refusal (u : Unsupported) : HelperError :=
  .root ⟨.unimplemented, u.operation ++ " is unimplemented", [], []⟩ none

def verb : Unsupported → Verb
  | list => .list
  | store => .store
  | erase => .erase

theorem readVerb_word (u : Unsupported) : readVerb [Text.ofString u.word] = .ok (u.verb, []) := by
  cases u <;> rfl

theorem runVerb_verb (u : Unsupported) (input : Bytes) (s : Settings) :
    runVerb u.verb [] input s = u.answer s input := by
  cases u <;> rfl

end Unsupported

/-! ## What decides the answer -/

section

variable (s : Settings) (input : Bytes) (homes : Homes)

/-- The document that a payload is. An empty payload counts as a null. -/
def document (payload : Text) : Except ParseError Json :=
  if payload.isEmpty then .ok .null else Json.parse payload

def Named : Prop := ∃ store, s.store homes = .ok store

namespace Unsupported

inductive Refuses : Unsupported → Prop
  | list (named : Named s homes) : Refuses list
  | store {payload : Text} (named : Named s homes) (hinput : inputText input = .ok payload)
      {v : Json} (h : document payload = .ok v) : Refuses store
  | erase {payload : Text} (named : Named s homes) (hinput : inputText input = .ok payload) :
      Refuses erase

structure Malformed (u : Unsupported) (payload : Text) (e : SyntaxError) : Prop where
  isStore : u = store
  named : Named s homes
  input : inputText input = .ok payload
  malformed : document payload = .error (.malformed e)

inductive Escapes : Unsupported → Cause → Prop
  /-- The path of the store names no file. A payload is read before it. -/
  | unnamed {u : Unsupported} {e : NameError} (h : s.store homes = .error e)
      (hinput : u = store → ∃ payload, inputText input = .ok payload) : Escapes u (.fileName e)
  /-- The input is no text. -/
  | undecoded {u : Unsupported} {e : DecodeError} (h : Utf8.decode input = .error e)
      (hlist : u ≠ list) (herase : u = erase → Named s homes) : Escapes u (.decoding e)
  /-- The payload may be a document, but it cannot be read. -/
  | unread {payload : Text} {e : ParseError} (named : Named s homes)
      (hinput : inputText input = .ok payload) (h : document payload = .error e)
      (hother : ∀ m, e ≠ .malformed m) : Escapes store (.document e)

end Unsupported

end

/-! ## The answers -/

theorem runOn_makeHelper (s : Settings) (w : World) :
    (makeHelper s).runOn w = match s.store w.homes with
      | .error e => (.error (.foreign (.fileName e)), w)
      | .ok store => (.ok (Helper.ofSettings s store), Journaled.note (createdLine s) w) := by
  rw [makeHelper, runOn_bind, runOn_makeStore]
  cases s.store w.homes with
  | error e => rfl
  | ok store => rfl

theorem inputText_eq_error {input : Bytes} {f : Failure} (h : inputText input = .error f) :
    ∃ e, f = .foreign (.decoding e) ∧ Utf8.decode input = .error e := by
  rw [inputText] at h
  cases hdecode : Utf8.decode input with
  | error e =>
    rw [hdecode] at h
    cases h
    exact ⟨e, rfl, rfl⟩
  | ok t =>
    rw [hdecode] at h
    cases h

namespace Unsupported

variable {s : Settings} {input : Bytes} {w : World} {u : Unsupported}

theorem whole_refusal (u : Unsupported) : Json.Whole u.refusal.message := by
  have hdetail : Json.Whole u.refusal.detail :=
    whole_append (Json.whole_ofString _) (Json.whole_ofString _)
  exact whole_append (whole_append (Json.whole_ofString _) (Json.whole_ofString _)) hdetail

theorem message_refusal (u : Unsupported) :
    u.refusal.message ++ Text.ofString "\n" =
      Text.ofString "docker-credential-gcr/helper: " ++ Text.ofString u.operation ++
        Text.ofString " is unimplemented\n" := by
  cases u <;> rfl

theorem runOn_reporting_refusal {a : Action World Unit} {t : World}
    (h : a.runOn w = (.error (.helper u.refusal), t)) :
    (reporting a).runOn w = (.ok 1, reported u.refusal t) := by
  rw [runOn_reporting_of_helper h, runOn_bind, runOn_report_of_whole u.whole_refusal]
  rfl

theorem runOn_answerStore {payload : Text} (hinput : inputText input = .ok payload) :
    (answerStore s input).runOn w = match s.store w.homes with
      | .error e => (.error (.foreign (.fileName e)), w)
      | .ok _ =>
        let t := Journaled.note (createdLine s) w
        match document payload with
        | .ok _ => (.ok 1, reported store.refusal t)
        | .error (.malformed e) => (.ok 1, Journaled.note
            (.status ("Error: invalid credentials payload: " ++ e.message ++ "\n")) t)
        | .error e => (.error (.foreign (.document e)), t) := by
  rw [answerStore, runOn_bind, hinput, runOn_ofExcept]
  dsimp only
  rw [runOn_bind, runOn_attempt, runOn_makeHelper]
  cases s.store w.homes with
  | error e => rfl
  | ok store =>
    dsimp only
    rw [← document]
    rcases document payload with (e | _ | _) | v
    · rfl
    · rfl
    · rfl
    · exact runOn_reporting_refusal rfl

theorem runOn_answer_of_refuses (h : u.Refuses s input w.homes) :
    (u.answer s input).runOn w =
      (.ok 1, reported u.refusal (Journaled.note (createdLine s) w)) := by
  cases h with
  | list named =>
    obtain ⟨store, hstore⟩ := named
    refine runOn_reporting_refusal ?_
    rw [runOn_bind, runOn_makeHelper, hstore]
    rfl
  | store named hinput h =>
    obtain ⟨store, hstore⟩ := named
    rw [answer, runOn_answerStore hinput, hstore, h]
  | erase named hinput =>
    obtain ⟨store, hstore⟩ := named
    refine runOn_reporting_refusal ?_
    rw [runOn_bind, runOn_makeHelper, hstore]
    dsimp only
    rw [hinput]
    rfl

theorem runOn_answer_of_malformed {payload : Text} {e : SyntaxError}
    (h : u.Malformed s input w.homes payload e) :
    (u.answer s input).runOn w = (.ok 1, Journaled.note
      (.status ("Error: invalid credentials payload: " ++ e.message ++ "\n"))
        (Journaled.note (createdLine s) w)) := by
  obtain ⟨rfl, ⟨store, hstore⟩, hinput, hmalformed⟩ := h
  rw [answer, runOn_answerStore hinput, hstore, hmalformed]

theorem runOn_answer_of_escapes {c : Cause} (h : u.Escapes s input w.homes c) :
    (u.answer s input).runOn w = (.error (.foreign c), w) ∨
      (u.answer s input).runOn w = (.error (.foreign c), Journaled.note (createdLine s) w) := by
  cases h with
  | unnamed h hinput =>
    refine .inl ?_
    cases u with
    | list =>
      refine runOn_reporting_of_foreign ?_
      rw [runOn_bind, runOn_makeHelper, h]
    | store =>
      obtain ⟨payload, hpayload⟩ := hinput rfl
      rw [answer, runOn_answerStore hpayload, h]
    | erase =>
      refine runOn_reporting_of_foreign ?_
      rw [runOn_bind, runOn_makeHelper, h]
  | undecoded h hlist herase =>
    cases u with
    | list => exact absurd rfl hlist
    | store =>
      refine .inl ?_
      rw [answer, answerStore, inputText, h]
      rfl
    | erase =>
      obtain ⟨store, hstore⟩ := herase rfl
      refine .inr (runOn_reporting_of_foreign ?_)
      rw [runOn_bind, runOn_makeHelper, hstore, inputText, h]
      rfl
  | unread named hinput h hother =>
    obtain ⟨store, hstore⟩ := named
    refine .inr ?_
    rw [answer, runOn_answerStore hinput, hstore, h]
    dsimp only
    split
    · next heq => cases heq
    · next heq => exact absurd (Except.error.inj heq) (hother _)
    · next heq =>
      cases heq
      rfl

theorem answer_cases (s : Settings) (input : Bytes) (homes : Homes) (u : Unsupported) :
    u.Refuses s input homes ∨ (∃ payload e, u.Malformed s input homes payload e) ∨
      ∃ c, u.Escapes s input homes c := by
  cases u with
  | list =>
    cases hstore : s.store homes with
    | error e => exact .inr (.inr ⟨_, .unnamed hstore nofun⟩)
    | ok store => exact .inl (.list ⟨store, hstore⟩)
  | store =>
    cases hinput : inputText input with
    | error f =>
      obtain ⟨e, -, hdecode⟩ := inputText_eq_error hinput
      exact .inr (.inr ⟨_, .undecoded hdecode nofun nofun⟩)
    | ok payload =>
      cases hstore : s.store homes with
      | error e => exact .inr (.inr ⟨_, .unnamed hstore fun _ => ⟨payload, hinput⟩⟩)
      | ok store =>
        have named : Named s homes := ⟨store, hstore⟩
        cases h : document payload with
        | ok v => exact .inl (.store named hinput h)
        | error e =>
          cases e with
          | malformed m => exact .inr (.inl ⟨payload, m, rfl, named, hinput, h⟩)
          | tooDeep isArray => exact .inr (.inr ⟨_, .unread named hinput h nofun⟩)
          | longInteger digits => exact .inr (.inr ⟨_, .unread named hinput h nofun⟩)
  | erase =>
    cases hstore : s.store homes with
    | error e => exact .inr (.inr ⟨_, .unnamed hstore nofun⟩)
    | ok store =>
      have named : Named s homes := ⟨store, hstore⟩
      cases hinput : inputText input with
      | error f =>
        obtain ⟨e, -, hdecode⟩ := inputText_eq_error hinput
        exact .inr (.inr ⟨_, .undecoded hdecode nofun fun _ => named⟩)
      | ok payload => exact .inl (.erase named hinput)

end Unsupported

/-! ## Runs -/

open Unsupported in
/-- A command that is not offered changes nothing but the journal.  If what it reads can be read it
ends with status 1 and the one message that the operation is unimplemented; a payload that is no
document ends it with status 1 too, but that is said to the user and not to the calling program; and
otherwise one of the listed failures ends it abruptly. -/
theorem run_unsupported {s : Settings} {w : World} (hload : Settings.load [] w = .ok s)
    (input : Bytes) (u : Unsupported) :
    (∃ journal, (run [Text.ofString u.word] input w).2 = { w with journal }) ∧
    ((u.Refuses s input w.homes ∧
        (run [Text.ofString u.word] input w).1.ending = .status 1 ∧
        (run [Text.ofString u.word] input w).1.output =
          ("docker-credential-gcr/helper: " ++ u.operation ++ " is unimplemented\n")) ∨
      (∃ payload e, u.Malformed s input w.homes payload e ∧
        (run [Text.ofString u.word] input w).1.ending = .status 1 ∧
        (run [Text.ofString u.word] input w).1.output = [] ∧
        .status ("Error: invalid credentials payload: " ++ e.message ++ "\n") ∈
          (run [Text.ofString u.word] input w).2.journal) ∨
      ∃ c, u.Escapes s input w.homes c ∧
        (run [Text.ofString u.word] input w).1.ending = .crash (.foreign c) ∧
        (run [Text.ofString u.word] input w).1.output = []) := by
  have hplan := plan_of_load u.readVerb_word hload input
  rw [runVerb_verb] at hplan
  rcases answer_cases s input w.homes u with h | ⟨payload, e, h⟩ | ⟨c, h⟩
  · have hrun := runOn_answer_of_refuses (w := { w with journal := [] }) h
    obtain ⟨hended, hshown, hleft⟩ := run_of_plan hplan (runOn_ending_of_ok hrun)
    refine ⟨⟨_, hleft⟩, .inl ⟨h, hended, hshown.trans ?_⟩⟩
    exact (outputOf_reported _ _).trans u.message_refusal
  · have hrun := runOn_answer_of_malformed (w := { w with journal := [] }) h
    obtain ⟨hended, hshown, hleft⟩ := run_of_plan hplan (runOn_ending_of_ok hrun)
    refine ⟨⟨_, hleft⟩, .inr (.inl ⟨payload, e, h, hended, hshown, ?_⟩)⟩
    rw [hleft]
    exact List.mem_append_right _ (List.mem_singleton_self _)
  · have hother : ∀ e, c ≠ .collaborator e := by
      rintro e rfl
      cases h
    rcases runOn_answer_of_escapes (w := { w with journal := [] }) h with hrun | hrun
    · obtain ⟨hended, hshown, hleft⟩ := run_of_plan hplan (runOn_ending_of_crash hrun hother)
      exact ⟨⟨_, hleft⟩, .inr (.inr ⟨c, h, hended, hshown⟩)⟩
    · obtain ⟨hended, hshown, hleft⟩ := run_of_plan hplan (runOn_ending_of_crash hrun hother)
      exact ⟨⟨_, hleft⟩, .inr (.inr ⟨c, h, hended, hshown⟩)⟩

def homeWorld : World := { World.bare with environment := [("HOME", "home")] }

def payload : Bytes :=
  Utf8.encode "\x7b\"ServerURL\": \"https://gcr.io\", \"Username\": \"me\", \"Secret\": \"s\"\x7d"

/-- A credential that is to be stored is refused. -/
theorem run_unsupported_payload :
    ∃ s, Settings.load [] homeWorld = .ok s ∧
      (∃ journal, (run ["store"] payload homeWorld).2 = { homeWorld with journal }) ∧
      (run ["store"] payload homeWorld).1.ending = .status 1 ∧
      (run ["store"] payload homeWorld).1.output =
        Text.ofString "docker-credential-gcr/helper: add is unimplemented\n" := by
  have hloads : (Settings.load [] homeWorld).isOk = true := by decide +kernel
  have hshows : (run ["store"] payload homeWorld).1.output ≠ [] := by decide +kernel
  cases hload : Settings.load [] homeWorld with
  | error c =>
    rw [hload] at hloads
    cases hloads
  | ok s =>
    obtain ⟨hleft, hcases⟩ := run_unsupported hload payload .store
    rcases hcases with ⟨-, hended, hshown⟩ | ⟨_, e, -, -, hshown, -⟩ | ⟨c, -, -, hshown⟩
    · exact ⟨s, rfl, hleft, hended, hshown⟩
    · exact absurd hshown hshows
    · exact absurd hshown hshows

def unfinished : Bytes := Utf8.encode "\x7boops"

/-- Nothing is said to the calling program about a payload that is no document. -/
theorem run_store_unfinished :
    (Settings.load [] homeWorld).isOk = true ∧
      (run ["store"] unfinished homeWorld).1.output = [] ∧
      (run ["store"] unfinished homeWorld).1.messages =
        Text.ofString ("Error: invalid credentials payload: Expecting property name enclosed in " ++
          "double quotes: line 1 column 2 (char 1)\n") := by
  refine ⟨?_, ?_, ?_⟩ <;> decide +kernel

end CommandLine

end CredentialHelper
