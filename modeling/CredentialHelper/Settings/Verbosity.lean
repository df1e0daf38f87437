import CredentialHelper.Failure.Cause
import CredentialHelper.Text.Case

/-!
# Verbosity

The log level of a run is given by name, in any case. A name that is unknown counts as `WARNING`,
but two names that belong to the logging system for other purposes are refused.
-/

namespace CredentialHelper.Verbosity

def lineForm : String := "%(asctime)s - %(name)s - %(levelname)s - %(message)s"

def levels : List (String × Int) :=
  [("CRITICAL", 50), ("FATAL", 50), ("ERROR", 40), ("WARNING", 30), ("WARN", 30), ("INFO", 20),
    ("DEBUG", 10), ("NOTSET", 0)]

def reserved : List (String × Cause) :=
  [("BASIC_FORMAT", .argument "Unknown level: '%(levelname)s:%(name)s:%(message)s'"),
    ("_STYLES", .nature ("Level not an integer or a valid string: \x7b'%': " ++
      "(<class 'logging.PercentStyle'>, '%(levelname)s:%(name)s:%(message)s'), '\x7b': " ++
      "(<class 'logging.StrFormatStyle'>, '\x7blevelname\x7d:\x7bname\x7d:\x7bmessage\x7d'), " ++
      "'$': (<class 'logging.StringTemplateStyle'>, " ++
      "'$\x7blevelname\x7d:$\x7bname\x7d:$\x7bmessage\x7d')\x7d"))]

def ofName (name : Text) : Except Cause Int :=
  match asciiUppercase? name with
  | none => .ok 30
  | some upper =>
    match levels.lookup upper, reserved.lookup upper with
    | some number, _ => .ok number
    | none, some cause => .error cause
    | none, none => .ok 30

end CredentialHelper.Verbosity
