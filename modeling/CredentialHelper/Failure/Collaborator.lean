import CredentialHelper.Json.Literal

/-!
# Failures of the libraries around the helper

A library reports a failure by the name of its kind and some arguments. The helper tells families
of such failures apart: those of the authentication library, those of HTTP requests, those of the
operating system and those about values. A kind can belong to several families.
-/

namespace CredentialHelper

inductive Argument where
  | data (v : Json)
  | bytes (bs : Bytes)
  deriving Repr

namespace Argument

def literal : Argument → String
  | .data v => Literal.value v
  | .bytes bs => Quoted.bytes bs

def text : Argument → Text
  | .data (.string t) => t
  | a => a.literal

end Argument

/-- A failure that a library reported. A name stands for one kind: that of the authentication
library if it has one of that name, else that of the HTTP library, else the kind that comes with the
language. So `TransportError`, `TimeoutError` and `OSError` are kinds of the authentication library,
and only the last is also one of the operating system. -/
structure CollaboratorError where
  /-- The name of its kind. -/
  name : String
  arguments : List Argument
  deriving Repr

namespace CollaboratorError

def detectionKinds : List String :=
  ["DefaultCredentialsError", "InvalidResource", "InvalidOperation", "InvalidValue", "InvalidType",
    "MalformedError", "OSError"]

def refreshKinds : List String :=
  ["RefreshError", "ReauthFailError", "ReauthSamlChallengeFailError"]

def authKinds : List String :=
  ["GoogleAuthError", "TransportError", "UserAccessTokenError", "MutualTLSChannelError",
    "ClientCertError", "OAuthError", "TimeoutError", "ResponseError"] ++
    detectionKinds ++ refreshKinds

def requestKinds : List String :=
  ["RequestError", "TimeoutException", "ConnectTimeout", "ReadTimeout", "WriteTimeout",
    "PoolTimeout", "NetworkError", "ConnectError", "ReadError", "WriteError", "CloseError",
    "ProxyError", "UnsupportedProtocol", "ProtocolError", "LocalProtocolError",
    "RemoteProtocolError", "DecodingError", "TooManyRedirects"]

def systemKinds : List String :=
  ["OSError", "FileNotFoundError", "FileExistsError", "PermissionError", "NotADirectoryError",
    "IsADirectoryError", "ConnectionError", "ConnectionRefusedError",
    "ConnectionResetError", "ConnectionAbortedError", "BrokenPipeError", "InterruptedError",
    "BlockingIOError", "ChildProcessError", "ProcessLookupError"]

def valueKinds : List String :=
  ["ValueError", "UnicodeError", "UnicodeDecodeError", "UnicodeEncodeError", "JSONDecodeError",
    "InvalidResource", "InvalidOperation", "InvalidValue", "MalformedError"]

def interruptKinds : List String := ["KeyboardInterrupt", "SystemExit", "GeneratorExit"]

def abortKinds : List String := ["KeyboardInterrupt", "EOFError"]

/-- Failures whose text begins by saying that the user was not recognised again. -/
def reauthKinds : List String := ["ReauthFailError", "ReauthSamlChallengeFailError"]

def isAuth (e : CollaboratorError) : Bool := authKinds.contains e.name
def isDetection (e : CollaboratorError) : Bool := detectionKinds.contains e.name
def isRefresh (e : CollaboratorError) : Bool := refreshKinds.contains e.name
def isRequest (e : CollaboratorError) : Bool := requestKinds.contains e.name
def isSystem (e : CollaboratorError) : Bool := systemKinds.contains e.name
def isValue (e : CollaboratorError) : Bool := valueKinds.contains e.name
def isInterrupt (e : CollaboratorError) : Bool := interruptKinds.contains e.name
def isAbort (e : CollaboratorError) : Bool := abortKinds.contains e.name

/-- Whether the operating system says that nobody reads what is written, by its failure 32. -/
def isBrokenPipe (e : CollaboratorError) : Bool :=
  match e.arguments with
  | .data (.int 32) :: rest => e.isSystem && decide (1 ≤ rest.length) && decide (rest.length ≤ 4)
  | _ => false

/-- A single argument is shown as plain text and several as a tuple. -/
def argumentText : List Argument → Text
  | [] => []
  | [a] => a.text
  | as => Literal.tuple (as.map Argument.literal)

def systemText : List Argument → Text
  | [number, text] => "[Errno " ++ number.text ++ "] " ++ text.text
  | number :: text :: path :: rest =>
    if 5 < rest.length + 3 then argumentText (number :: text :: path :: rest)
    else
      let first := if path.literal == "None" then "" else ": " ++ path.literal
      let second := match rest with
        | [_, target] => if target.literal == "None" then "" else " -> " ++ target.literal
        | _ => ""
      "[Errno " ++ number.text ++ "] " ++ text.text ++ first ++
        (if first.isEmpty then "" else second)
  | as => argumentText as

/-- The arguments that a failure holds: one of an unsuccessful second login has its text prefixed.
-/
def held (e : CollaboratorError) : List Argument :=
  if reauthKinds.contains e.name then
    let detail : Text := match e.arguments with
      | [] => "None"
      | a :: _ => a.text
    [.data (.string ("Reauthentication failed. " ++ detail))]
  else e.arguments

def streamText? : String → Option String
  | "StreamConsumed" =>
    some ("Attempted to read or stream some content, but the content has already been streamed. " ++
      "For requests, this could be due to passing a generator as request content, and then " ++
      "receiving a redirect response or a secondary request as part of an authentication flow." ++
      "For responses, this could be due to attempting to stream the response content more than " ++
      "once.")
  | "StreamClosed" =>
    some "Attempted to read or stream content, but the stream has been closed."
  | "ResponseNotRead" =>
    some "Attempted to access streaming response content, without having called `read()`."
  | "RequestNotRead" =>
    some "Attempted to access streaming request content, without having called `read()`."
  | _ => none

def message (e : CollaboratorError) : Text :=
  if systemKinds.contains e.name then systemText e.arguments
  else if let some text := streamText? e.name then text
  else
    match e.name, e.held with
    | "KeyError", [a] => a.literal
    | "UnicodeDecodeError", [encoding, .bytes bs, .data (.int start), .data (.int stop), reason] =>
      "'" ++ encoding.text ++ "' codec can't decode " ++
        Placement.ofBytes bs[start.toNat]? start stop ++
        ": " ++ reason.text
    | "UnicodeEncodeError",
        [encoding, .data (.string t), .data (.int start), .data (.int stop), reason] =>
      "'" ++ encoding.text ++ "' codec can't encode " ++
        Placement.ofSymbols t[start.toNat]? start stop ++
        ": " ++ reason.text
    | _, arguments => argumentText arguments

theorem isAuth_of_isRefresh {e : CollaboratorError} (h : e.isRefresh = true) : e.isAuth = true := by
  simp only [isRefresh, List.contains_iff_mem] at h
  simp [isAuth, authKinds, h]

theorem isAuth_of_isDetection {e : CollaboratorError} (h : e.isDetection = true) :
    e.isAuth = true := by
  simp only [isDetection, List.contains_iff_mem] at h
  simp [isAuth, authKinds, h]

end CollaboratorError

end CredentialHelper
