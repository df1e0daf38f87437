import CredentialHelper.Host.Action
import CredentialHelper.Host.FileTree
import CredentialHelper.Number.Quantity
import CredentialHelper.Time.Moment

/-!
# The world around the helper

Everything outside the helper is in one value: the clock, the environment, the files, and for each
collaborator (network, programs, authentication library, browser) what it will answer. A request to
a collaborator takes its next answer and leaves an event.
-/

namespace CredentialHelper

/-- What a collaborator answers: first the given answers in turn, then always the same. -/
structure Script (α : Type) where
  answers : List α
  otherwise : α

namespace Script

variable {α : Type}

def head (s : Script α) : α := s.answers.headD s.otherwise

def tail (s : Script α) : Script α := ⟨s.answers.drop 1, s.otherwise⟩

end Script

structure Response where
  status : Nat
  headers : List (String × String)
  body : Bytes

inductive ProgramRun where
  | ended (status : Int) (stdout : Bytes) (stderr : Option Bytes)
  | timedOut
  /-- There is no such program. -/
  | absent
  | failed (f : Failure)

structure Refreshed where
  token : Option Text
  expiry : Option Moment
  deriving DecidableEq, Repr

structure Detected where
  isServiceAccount : Bool
  refresh : Except Failure Refreshed

structure Grant where
  token : Option Text
  refreshToken : Option Text
  expiry : Option Moment
  deriving DecidableEq, Repr

structure LoginRequest where
  clientId : Text
  clientSecret : Text
  authUri : Text
  tokenUri : Text
  redirectUris : List Text
  scopes : List Text
  /-- The port on which the answer is awaited; any free one if it is zero. -/
  port : Nat
  /-- What is shown to the user before the browser opens. -/
  prompt : Text
  timeout : Option Quantity
  deriving DecidableEq, Repr

inductive Event where
  | request (method url body contentType userAgent : String) (timeout : Int)
  | program (argv : List Text) (timeout : Option Quantity)
  | detection (scopes : List Text)
  | login (r : LoginRequest)
  deriving DecidableEq, Repr

/-- The state of everything outside the helper. -/
structure World where
  now : Instant
  environment : List (Text × Text)
  /-- Homes of users, as the system knows them; the first is that of the current user. -/
  accounts : List (Text × Text)
  files : FileTree
  http : Script (Except Failure Response)
  programs : Script ProgramRun
  detections : Script (Except Failure Detected)
  logins : Script (Except Failure Grant)
  events : List Event
  journal : List Line

namespace World

instance : Journaled World where
  note line w := { w with journal := w.journal ++ [line] }

def environment? (w : World) (name : Text) : Option Text := w.environment.lookup name

def homes (w : World) : Homes :=
  ⟨match w.environment? "HOME" with
    | some home => some home
    | none => w.accounts.head?.map (·.2), w.accounts⟩

def send (event : Event) : Action World Response :=
  Action.ofFunction fun w =>
    (w.http.head, { w with http := w.http.tail, events := w.events ++ [event] })

def start (argv : List Text) (timeout : Option Quantity) : Action World ProgramRun :=
  Action.ofFunction fun w =>
    (.ok w.programs.head,
      { w with programs := w.programs.tail, events := w.events ++ [.program argv timeout] })

def detect (scopes : List Text) : Action World Detected :=
  Action.ofFunction fun w =>
    (w.detections.head,
      { w with detections := w.detections.tail, events := w.events ++ [.detection scopes] })

def askLogin (r : LoginRequest) : Action World Grant :=
  Action.ofFunction fun w =>
    (w.logins.head, { w with logins := w.logins.tail, events := w.events ++ [.login r] })

def onFiles {α : Type} (f : FileTree → FileTree × Except Failure α) : Action World α :=
  Action.ofFunction fun w =>
    let (files, r) := f w.files
    (r, { w with files := files })

end World

end CredentialHelper
