import CredentialHelper.Host.World

/-!
# External programs

A program is run with arguments and its standard output is the result. Its failures, its overrunning
of a time limit and its absence are errors of the helper.
-/

namespace CredentialHelper

/-- A program to run, with a limit to its time in seconds. -/
structure Command where
  program : Text
  timeout : Option Quantity
  deriving DecidableEq, Repr

namespace Command

def limitText (c : Command) : String :=
  match c.timeout with
  | some q => q.text
  | none => "None"

def installFirst : List Text :=
  ["Install the Google Cloud SDK or drop 'gcloud' from token sources"]

def cannotRun (c : Command) (cause : Cause) : Failure :=
  .helper (.root ⟨.externalTool, "unable to run " ++ c.program, installFirst, []⟩ (some cause))

def absent (c : Command) : Cause :=
  .collaborator ⟨"OSError", [.data (.int 2), .data (Json.ofString "No such file or directory"),
    .data (.string c.program)]⟩

def output (c : Command) (argv : List Text) : ProgramRun → Except Failure Bytes
  | .ended status stdout stderr =>
    if status = 0 then .ok stdout
    else
      let message := Blank.strip (Utf8.decodeLenient (stderr.getD []))
      .error (.helper (.root ⟨.externalTool, c.program ++ " exited with status " ++ toString status,
        [], [(Text.ofString "stderr", .string message)]⟩ (some (.exit ⟨argv, status⟩))))
  | .timedOut =>
    .error (.helper (.root ⟨.externalTool, c.program ++ " timed out after " ++ c.limitText ++ "s",
      [], []⟩ (some (.timeout argv c.limitText))))
  | .absent => .error (cannotRun c (absent c))
  | .failed (.foreign (.collaborator e)) =>
    .error (if e.isSystem then cannotRun c (.collaborator e) else .foreign (.collaborator e))
  | .failed f => .error f

def run (c : Command) (arguments : List Text) : Action World Bytes := do
  let argv := c.program :: arguments
  Action.log .debug "sources" ("Running " ++ Text.join " " argv)
  Action.ofExcept (output c argv (← World.start argv c.timeout))

end Command

end CredentialHelper
