import CredentialHelper.CommandLine.Request
import CredentialHelper.Helper
import CredentialHelper.Settings.UserFile

/-!
# Runs of the command line

A run reads its arguments, loads the settings and does what it is asked for. An error of the helper
is a message for the calling program, hints for the user and status 1. Wrong usage has status 2.
Every other failure ends the run abruptly.
-/

namespace CredentialHelper.CommandLine

/-! ## Answers -/

/-- A line for the calling program, which reads bytes: a text that has none is not shown. -/
def reply (line : Text) : Action World Unit :=
  let text : Text := line ++ "\n"
  match Encoding.string text with
  | .ok _ => Action.note (.reply text)
  | .error e => Action.fail (.foreign (.encoding e))

def tellLine (line : Text) : Action World Unit := Action.tell (line ++ "\n")

def report (e : HelperError) : Action World Unit := do
  Action.log .debug "main" (e.kind.name ++ ": " ++ e.detail)
  reply e.message
  e.suggestions.forM fun suggestion => tellLine ("hint: " ++ suggestion)

/-- The status of an action whose errors of the helper are reported. -/
def reporting (action : Action World Unit) : Action World Nat := do
  match ← Action.attempt action with
  | .ok () => return 0
  | .error (.helper e) =>
    report e
    return 1
  | .error f => Action.fail f

/-! ## Requests -/

/-- The text that is given to a run, without blanks around it. -/
def inputText (input : Bytes) : Except Failure Text :=
  match Utf8.decode input with
  | .ok t => .ok (Blank.strip (unifyLines t))
  | .error e => .error (.foreign (.decoding e))

def makeStore (s : Settings) : Action World CredentialStore := do
  Action.ofExcept ((s.store (← get).homes).mapError fun e => .foreign (.fileName e))

def makeHelper (s : Settings) : Action World Helper := do
  Helper.create s (← makeStore s)

/-- A credential as the calling program reads it. -/
def credentialLine (registry : Text) (c : RegistryCredential) : String :=
  (Json.ofMembers [("ServerURL", .string registry), ("Username", .string c.userName),
    ("Secret", .string c.secret)]).render .line

def answerGet (s : Settings) (input : Bytes) : Action World Nat := do
  let registry ← Action.ofExcept (inputText input)
  reporting do
    let credential ← (← makeHelper s).get registry
    reply (credentialLine registry credential)

def answerList (s : Settings) : Action World Nat :=
  reporting do
    let listed ← (← makeHelper s).list
    reply ((Json.object (listed.map fun p => (p.1, .string p.2))).render .line)

/-- Credentials are refused, and before that a text that is no JSON. -/
def answerStore (s : Settings) (input : Bytes) : Action World Nat := do
  let payload ← Action.ofExcept (inputText input)
  let credential := if payload.isEmpty then .ok Json.null else Json.parse payload
  match ← Action.attempt (makeHelper s), credential with
  | .error f, _ => Action.fail f
  | .ok helper, .ok credential => reporting (helper.add credential)
  | .ok _, .error (.malformed e) =>
    tellLine ("Error: invalid credentials payload: " ++ e.message)
    return 1
  | .ok _, .error e => Action.fail (.foreign (.document e))

def answerErase (s : Settings) (input : Bytes) : Action World Nat :=
  reporting do
    let helper ← makeHelper s
    helper.delete (← Action.ofExcept (inputText input))

def userFile : Action World Text := do
  Action.ofExcept ((Settings.userFile (← get)).mapError fun e => .foreign (.fileName e))

def answerSetSources (text : Text) : Action World Nat := do
  let path ← userFile
  let sources := UserFile.identifiers text
  reporting do
    let sources ← Action.ofExcept ((UserFile.checked sources).mapError .helper)
    World.onFiles fun files => UserFile.setSources files path sources
    tellLine ("Token sources set to " ++ Text.join ", " sources)

def answerUnsetAll : Action World Nat := do
  let path ← userFile
  World.onFiles fun files => UserFile.remove files path
  tellLine ("Removed " ++ path)
  return 0

def answerLogIn (s : Settings) : Action World Nat :=
  reporting do
    let credential ← s.loginClient.logIn
    (← makeStore s).save credential
    tellLine "Login Succeeded"

def answerLogOut (s : Settings) : Action World Nat :=
  reporting do
    (← makeStore s).delete
    tellLine "Logged out"

def perform (s : Settings) (input : Bytes) : Request → Action World Nat
  | .get => answerGet s input
  | .list => answerList s
  | .store => answerStore s input
  | .erase => answerErase s input
  | .version => do
    reply ("Google Container Registry Docker credential helper " ++ Identity.version)
    return 0
  | .setSources text => answerSetSources text
  | .unsetAll => answerUnsetAll
  | .logIn => answerLogIn s
  | .logOut => answerLogOut s

/-! ## Runs -/

def endEarly : Early → Action World Nat
  | .help form => do
    Action.note (.reply form.page)
    return 0
  | .menu form => do
    Action.tell form.page
    return 2
  | .misuse (some form) message => do
    Action.tell (form.complaint message)
    return 2
  | .misuse none message => do
    tellLine ("Error: " ++ message)
    return 2

/-- The settings of a run. Values that are refused and text that is no JSON are errors of the
helper. -/
def settings (w : World) : Except Failure Settings :=
  let invalid (cause : Cause) : Failure :=
    .helper (.root ⟨.config, "invalid configuration", [], []⟩ (some cause))
  (Settings.load [] w).mapError fun cause =>
    match cause with
    | .invalid _ => invalid cause
    | .document (.malformed _) => invalid cause
    | _ => .foreign cause

def runVerb (verb : Verb) (arguments : List Text) (input : Bytes) (s : Settings) :
    Action World Nat :=
  match readRequest verb arguments with
  | .error early => endEarly early
  | .ok request => perform s input request

inductive Ending where
  | status (n : Nat)
  | crash (f : Failure)
  deriving Repr

structure Outcome where
  ending : Ending
  output : Text
  messages : Text
  deriving Repr

def outputOf (journal : List Line) : Text :=
  journal.flatMap fun line =>
    match line with
    | .reply text => text
    | _ => []

/-- What the journal holds for the user, with the log records from a level on. Surrogates are
escaped. -/
def messagesOf (level : LogLevel) (journal : List Line) : Text :=
  let shown : Text := journal.flatMap fun line =>
    match line with
    | .reply _ => []
    | .status text => text
    | .log r =>
      if level.number ≤ r.level.number then
        r.logger ++ " - " ++ r.level.name ++ " - " ++ r.message ++ "\n"
      else []
  shown.escaped

def plan (arguments : List Text) (input : Bytes) (w : World) : LogLevel × Action World Nat :=
  match readVerb arguments with
  | .error early => (.warning, endEarly early)
  | .ok (verb, rest) =>
    match settings w with
    | .error f => (.warning, reporting (Action.fail f))
    | .ok s => (s.logLevel, runVerb verb rest input s)

/-- How an action ends a run. A user who breaks off is answered. -/
def ending (action : Action World Nat) : Action World Ending := do
  match ← Action.attempt action with
  | .ok status => return .status status
  | .error f =>
    if f.isAbort then
      Action.tell "\nAborted!\n"
      return .status 1
    else if f.isBrokenPipe then return .status 1
    else return .crash f

/-- Runs the command line in a world, with a journal of its own. -/
def run (arguments : List Text) (input : Bytes) (w : World) : Outcome × World :=
  let (level, action) := plan arguments input w
  let (result, w) := (ending action).runOn { w with journal := [] }
  let ended : Ending := match result with
    | .ok ended => ended
    | .error f => .crash f
  (⟨ended, outputOf w.journal, messagesOf level w.journal⟩, w)

end CredentialHelper.CommandLine
