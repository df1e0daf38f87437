import CredentialHelper.CommandLine.Arguments

/-!
# Requests

What a user can ask for on the command line. The first word is read before the settings are loaded
and the arguments behind it afterwards, so that an unknown first word is found in any case, and
settings that cannot be used are found before everything else.
-/

namespace CredentialHelper.CommandLine

inductive Request where
  | get
  | list
  | store
  | erase
  | version
  /-- The token sources as they were given, with commas between them. -/
  | setSources (sources : Text)
  | unsetAll
  | logIn
  | logOut
  deriving DecidableEq, Repr

/-- The first word of a call. -/
inductive Verb where
  | auth
  | config
  | erase
  | get
  | list
  | store
  | version
  deriving DecidableEq, Repr

namespace Verb

def all : List Verb := [auth, config, erase, get, list, store, version]

def name : Verb → String
  | auth => "auth"
  | config => "config"
  | erase => "erase"
  | get => "get"
  | list => "list"
  | store => "store"
  | version => "version"

def summary : Verb → String
  | auth => "Manage the helper's own stored credential."
  | config => "Persist user configuration."
  | erase => "Erase credentials for the server URL read from stdin (unsupported)."
  | get => "Print credentials for the server URL read from stdin."
  | list => "List stored credentials (unsupported)."
  | store => "Store credentials read from stdin (unsupported)."
  | version => "Print the helper version."

def ofName? (name : Text) : Option Verb := all.find? fun v => Text.ofString v.name == name

end Verb

inductive AuthVerb where
  | login
  | logout
  deriving DecidableEq, Repr

namespace AuthVerb

def all : List AuthVerb := [login, logout]

def name : AuthVerb → String
  | login => "login"
  | logout => "logout"

def summary : AuthVerb → String
  | login => "Log in through the browser and store the credential."
  | logout => "Forget the stored credential."

def ofName? (name : Text) : Option AuthVerb := all.find? fun v => Text.ofString v.name == name

end AuthVerb

def sourceFlag : Flag :=
  ⟨"--token-source", some "TEXT",
    "Comma-separated token sources in priority order, e.g. 'env,store'."⟩

def unsetFlag : Flag := ⟨"--unset-all", none, "Remove all user configuration."⟩

def rootForm : Form :=
  ⟨Identity.name, "Docker credential helper for Google Container Registry.", [],
    Verb.all.map fun v => (v.name, v.summary)⟩

def Verb.form (v : Verb) : Form :=
  ⟨Identity.name ++ " " ++ v.name, v.summary, if v = .config then [sourceFlag, unsetFlag] else [],
    if v = .auth then AuthVerb.all.map fun w => (w.name, w.summary) else []⟩

def AuthVerb.form (w : AuthVerb) : Form :=
  ⟨Verb.auth.form.path ++ " " ++ w.name, w.summary, [], []⟩

def readVerb (arguments : List Text) : Except Early (Verb × List Text) :=
  readChoice rootForm Verb.ofName? arguments

/-- What `config` is asked for. Forgetting wins over setting. -/
def readConfig (arguments : List Text) : Except Early Request := do
  let form := Verb.config.form
  let reading ← readLeaf form arguments
  if reading.has unsetFlag.name then return .unsetAll
  else match reading.value? sourceFlag.name with
    | some sources => return .setSources sources
    | none => throw (.misuse (some form) "one of --token-source or --unset-all is required")

def readAuth (arguments : List Text) : Except Early Request := do
  let (word, rest) ← readChoice Verb.auth.form AuthVerb.ofName? arguments
  let _ ← readLeaf word.form rest
  match word with
  | .login => return .logIn
  | .logout => return .logOut

def readRequest (verb : Verb) (arguments : List Text) : Except Early Request :=
  let plain (request : Request) : Except Early Request :=
    (readLeaf verb.form arguments).map fun _ => request
  match verb with
  | .auth => readAuth arguments
  | .config => readConfig arguments
  | .erase => plain .erase
  | .get => plain .get
  | .list => plain .list
  | .store => plain .store
  | .version => plain .version

end CredentialHelper.CommandLine
