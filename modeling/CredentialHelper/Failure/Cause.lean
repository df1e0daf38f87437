import CredentialHelper.Failure.Collaborator
import CredentialHelper.Failure.System
import CredentialHelper.Http.Deflate
import CredentialHelper.Http.Url
import CredentialHelper.Json.Reader
import CredentialHelper.Number.Numeral
import CredentialHelper.Validation.Report

/-!
# Causes from outside

What the parts around the helper report: the file system, documents and encodings that cannot be
read, texts that cannot be encoded, refused records, HTTP statuses, programs that failed, numbers
out of range, and failures of libraries. `Cause.message` is the text of each.
-/

namespace CredentialHelper

structure StatusError where
  status : Nat
  url : String
  /-- Where a redirect leads. -/
  location : Option String
  body : Bytes
  deriving DecidableEq, Repr

structure ExitError where
  argv : List Text
  /-- A negative number is that of the signal that ended the program. -/
  status : Int
  deriving DecidableEq, Repr

inductive IntegerError where
  | numeral (e : NumeralError)
  | notANumber
  | infinite
  /-- A list, or else an object. -/
  | container (isList : Bool)
  deriving DecidableEq, Repr

inductive RangeError where
  /-- A date outside the years 1 to 9999. -/
  | date
  /-- A duration of that many days. -/
  | days (n : Int)
  | integer
  deriving DecidableEq, Repr

/-- What a library outside the helper reports. -/
inductive Cause where
  | system (e : SystemError)
  | document (e : ParseError)
  | decoding (e : DecodeError)
  | invalid (r : Validation.Report)
  | encoding (e : EncodeError)
  /-- A text that names no file. -/
  | fileName (e : NameError)
  | url (e : UrlError)
  /-- A location without a scheme or a host, as it was asked for. -/
  | relative (target : String)
  /-- A redirect to a text that is no location. -/
  | redirect (e : UrlError)
  /-- Contents that cannot be decoded. -/
  | coding (e : CodingError)
  | status (e : StatusError)
  | exit (e : ExitError)
  /-- The limit in seconds, as it was given. -/
  | timeout (argv : List Text) (limit : String)
  | integer (e : IntegerError)
  | range (e : RangeError)
  /-- An argument out of its range. -/
  | argument (message : String)
  /-- A value of the wrong nature. -/
  | nature (message : String)
  /-- A value without the operation that was asked of it. -/
  | operation (message : String)
  /-- A setting that cannot be read from the environment. -/
  | setting (name : String)
  | noHome
  | collaborator (e : CollaboratorError)
  deriving Repr

namespace StatusError

/-- The standard phrase of a status, empty for a number without one. -/
def phrase : Nat → String
  | 100 => "Continue" | 101 => "Switching Protocols" | 102 => "Processing" | 103 => "Early Hints"
  | 200 => "OK" | 201 => "Created" | 202 => "Accepted" | 203 => "Non-Authoritative Information"
  | 204 => "No Content" | 205 => "Reset Content" | 206 => "Partial Content"
  | 207 => "Multi-Status" | 208 => "Already Reported" | 226 => "IM Used"
  | 300 => "Multiple Choices" | 301 => "Moved Permanently" | 302 => "Found" | 303 => "See Other"
  | 304 => "Not Modified" | 305 => "Use Proxy" | 307 => "Temporary Redirect"
  | 308 => "Permanent Redirect"
  | 400 => "Bad Request" | 401 => "Unauthorized" | 402 => "Payment Required" | 403 => "Forbidden"
  | 404 => "Not Found" | 405 => "Method Not Allowed" | 406 => "Not Acceptable"
  | 407 => "Proxy Authentication Required" | 408 => "Request Timeout" | 409 => "Conflict"
  | 410 => "Gone" | 411 => "Length Required" | 412 => "Precondition Failed"
  | 413 => "Request Entity Too Large" | 414 => "Request-URI Too Long"
  | 415 => "Unsupported Media Type" | 416 => "Requested Range Not Satisfiable"
  | 417 => "Expectation Failed" | 418 => "I'm a teapot" | 421 => "Misdirected Request"
  | 422 => "Unprocessable Entity" | 423 => "Locked" | 424 => "Failed Dependency"
  | 425 => "Too Early" | 426 => "Upgrade Required" | 428 => "Precondition Required"
  | 429 => "Too Many Requests" | 431 => "Request Header Fields Too Large"
  | 451 => "Unavailable For Legal Reasons"
  | 500 => "Internal Server Error" | 501 => "Not Implemented" | 502 => "Bad Gateway"
  | 503 => "Service Unavailable" | 504 => "Gateway Timeout"
  | 505 => "HTTP Version Not Supported" | 506 => "Variant Also Negotiates"
  | 507 => "Insufficient Storage" | 508 => "Loop Detected" | 510 => "Not Extended"
  | 511 => "Network Authentication Required"
  | _ => ""

def category (status : Nat) : String :=
  match status / 100 with
  | 1 => "Informational response"
  | 3 => "Redirect response"
  | 4 => "Client error"
  | 5 => "Server error"
  | _ => "Invalid status code"

def message (e : StatusError) : String :=
  category e.status ++ " '" ++ toString e.status ++ " " ++ phrase e.status ++ "' for url '" ++
    e.url ++ "'\n" ++
    (match e.location with
      | none => ""
      | some location => "Redirect location: '" ++ location ++ "'\n") ++
    "For more information check: https://developer.mozilla.org/en-US/docs/Web/HTTP/Status/" ++
    toString e.status

end StatusError

namespace ExitError

def signalName? : Nat → Option String
  | 1 => "SIGHUP" | 2 => "SIGINT" | 3 => "SIGQUIT" | 4 => "SIGILL" | 5 => "SIGTRAP"
  | 6 => "SIGABRT" | 7 => "SIGBUS" | 8 => "SIGFPE" | 9 => "SIGKILL" | 10 => "SIGUSR1"
  | 11 => "SIGSEGV" | 12 => "SIGUSR2" | 13 => "SIGPIPE" | 14 => "SIGALRM" | 15 => "SIGTERM"
  | 16 => "SIGSTKFLT" | 17 => "SIGCHLD" | 18 => "SIGCONT" | 19 => "SIGSTOP" | 20 => "SIGTSTP"
  | 21 => "SIGTTIN" | 22 => "SIGTTOU" | 23 => "SIGURG" | 24 => "SIGXCPU" | 25 => "SIGXFSZ"
  | 26 => "SIGVTALRM" | 27 => "SIGPROF" | 28 => "SIGWINCH" | 29 => "SIGIO" | 30 => "SIGPWR"
  | 31 => "SIGSYS" | 34 => "SIGRTMIN" | 64 => "SIGRTMAX"
  | _ => none

def message (e : ExitError) : String :=
  "Command '" ++ Literal.texts e.argv ++ "' " ++
    (if e.status < 0 then
      match signalName? e.status.natAbs with
      | some name => "died with <Signals." ++ name ++ ": " ++ toString e.status.natAbs ++ ">."
      | none => "died with unknown signal " ++ toString e.status.natAbs ++ "."
     else "returned non-zero exit status " ++ toString e.status ++ ".")

end ExitError

def ParseError.message : ParseError → String
  | .malformed e => e.message
  | .longInteger digits => longIntegerMessage digits
  | .tooDeep isArray =>
    "maximum recursion depth exceeded while decoding a JSON " ++
      (if isArray then "array" else "object") ++ " from a unicode string"

def IntegerError.message : IntegerError → String
  | .numeral e => e.message
  | .notANumber => "cannot convert float NaN to integer"
  | .infinite => "cannot convert float infinity to integer"
  | .container isList =>
    "int() argument must be a string, a bytes-like object or a real number, not '" ++
      (if isList then "list" else "dict") ++ "'"

def RangeError.message : RangeError → String
  | .date => "date value out of range"
  | .days n => "days=" ++ toString n ++ "; must have magnitude <= 999999999"
  | .integer => "Python int too large to convert to C int"

/-- Whether the operating system reported it, to the helper or to a library. -/
def Cause.isSystem : Cause → Bool
  | .system _ => true
  | .collaborator e => e.isSystem
  | _ => false

def Cause.message : Cause → Text
  | .system e => e.message
  | .document e => e.message
  | .decoding e => e.message
  | .invalid r => r.message
  | .encoding e => e.message
  | .fileName e => e.message
  | .url e => e.message
  | .relative target => "unknown url type: " ++ Quoted.string target
  | .redirect e => "Invalid URL in location header: " ++ e.message ++ "."
  | .coding e => e.message
  | .status e => e.message
  | .exit e => e.message
  | .timeout argv limit =>
    "Command '" ++ Literal.texts argv ++ "' timed out after " ++ limit ++ " seconds"
  | .integer e => e.message
  | .range e => e.message
  | .argument message => message
  | .nature message => message
  | .operation message => message
  | .setting name =>
    "error parsing value for field \"" ++ name ++ "\" from source \"EnvSettingsSource\""
  | .noHome => "Could not determine home directory."
  | .collaborator e => e.message

end CredentialHelper
