import CredentialHelper.Text.Symbol

/-!
# The journal of a run

Everything that a run shows stands in one journal, in the order in which it was shown: log records,
lines for the user, and lines of the protocol.
-/

namespace CredentialHelper

inductive LogLevel where
  | debug
  | info
  | warning
  | error
  deriving DecidableEq, Repr

namespace LogLevel

def name : LogLevel → String
  | .debug => "DEBUG"
  | .info => "INFO"
  | .warning => "WARNING"
  | .error => "ERROR"

def ofName? (name : String) : Option LogLevel :=
  [debug, info, warning, error].find? fun level => level.name == name

/-- A record is shown if the number of its level is no less than that of the level of the run. -/
def number : LogLevel → Int
  | .debug => 10
  | .info => 20
  | .warning => 30
  | .error => 40

end LogLevel

structure LogRecord where
  level : LogLevel
  /-- The part of the program that it is about. -/
  area : String
  message : Text
  deriving DecidableEq, Repr

def LogRecord.logger (r : LogRecord) : String := "docker-credential-gcr." ++ r.area

inductive Line where
  | log (r : LogRecord)
  /-- For the user. -/
  | status (text : Text)
  /-- For the program that called. -/
  | reply (text : Text)
  deriving DecidableEq, Repr

/-- A state that keeps a journal. -/
class Journaled (σ : Type) where
  note : Line → σ → σ

end CredentialHelper
