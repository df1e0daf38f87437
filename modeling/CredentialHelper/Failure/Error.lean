import CredentialHelper.Failure.Cause
import CredentialHelper.Failure.Kind
import CredentialHelper.Identity

/-!
# Errors of the helper

A helper error has a message, suggestions and context, and perhaps a cause: another helper error or
a failure from outside. `HelperError.detail` is the chain of messages with the outside cause at its
end, and `HelperError.message` puts the program's name in front of it, once.
-/

namespace CredentialHelper

structure ErrorEntry where
  kind : ErrorKind
  message : Text
  suggestions : List Text := []
  context : Members := []
  deriving Repr

/-- An error of the helper: one level without a helper error below it, or a level around another
error. -/
inductive HelperError where
  | root (entry : ErrorEntry) (cause : Option Cause)
  | wrap (entry : ErrorEntry) (cause : HelperError)
  deriving Repr

namespace HelperError

def entry : HelperError → ErrorEntry
  | .root entry _ => entry
  | .wrap entry _ => entry

def kind (e : HelperError) : ErrorKind := e.entry.kind

def suggestions (e : HelperError) : List Text := e.entry.suggestions

def context (e : HelperError) : Members := e.entry.context

/-- The messages from the outermost level to the outside cause. -/
def detail : HelperError → Text
  | .root entry none => entry.message
  | .root entry (some cause) => entry.message ++ ": " ++ cause.message
  | .wrap entry cause => entry.message ++ ": " ++ cause.detail

/-- What stands in front of the text of every helper error. -/
def announcement : String := Identity.name ++ "/helper"

def message (e : HelperError) : Text := announcement ++ ": " ++ e.detail

def arguments (e : HelperError) : List Text := [e.message]

end HelperError

inductive Failure where
  | helper (e : HelperError)
  | foreign (c : Cause)
  deriving Repr

instance : Inhabited Failure := ⟨.foreign .noHome⟩

namespace Failure

def message : Failure → Text
  | .helper e => e.message
  | .foreign c => c.message

def isInterrupt : Failure → Bool
  | .foreign (.collaborator e) => e.isInterrupt
  | _ => false

def isAbort : Failure → Bool
  | .foreign (.collaborator e) => e.isAbort
  | _ => false

def isBrokenPipe : Failure → Bool
  | .foreign (.collaborator e) => e.isBrokenPipe
  | _ => false

def plain (kind : ErrorKind) (message : Text) (suggestions : List Text := [])
    (context : Members := []) : Failure :=
  .helper (.root ⟨kind, message, suggestions, context⟩ none)

end Failure

namespace HelperError

/-- A level with a failure as its cause. -/
def because (entry : ErrorEntry) : Failure → HelperError
  | .helper e => .wrap entry e
  | .foreign c => .root entry (some c)

theorem detail_because (entry : ErrorEntry) (e : HelperError) :
    (because entry (.helper e)).detail = entry.message ++ ": " ++ e.detail := rfl

end HelperError

end CredentialHelper
