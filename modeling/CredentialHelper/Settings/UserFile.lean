import CredentialHelper.Host.Action
import CredentialHelper.Settings.Layer
import CredentialHelper.Source.Kind

/-!
# The user's configuration file

The helper changes only the token sources in the file and keeps its other members, or it removes the
file as a whole.
-/

namespace CredentialHelper.UserFile

def sourcesKey : Text := Text.ofString "token_sources"

def refused (action : String) (path : Text) (cause : Cause) : Failure :=
  .helper (.root ⟨.config, "unable to " ++ action ++ " config file " ++ path, [], []⟩ (some cause))

def read (files : FileTree) (path : Text) : Except Failure Json :=
  match files.readJson path with
  | .ok v => .ok v
  | .error (.system e) =>
    if e.errno = .notFound then .ok (.object []) else .error (refused "read" path (.system e))
  | .error (.document (.malformed e)) => .error (refused "read" path (.document (.malformed e)))
  | .error cause => .error (.foreign cause)

/-- A value with the token sources in it. Only an object can take them. -/
def withSources (sources : List Text) : Json → Except Failure Json
  | .object members =>
    .ok (.object (Members.insert sourcesKey (.array (sources.map .string)) members))
  | v =>
    .error (.foreign (.operation ("'" ++ Literal.nature v ++ "' object has no attribute 'update'")))

def write (files : FileTree) (path : Text) (v : Json) : FileTree × Except Failure Unit :=
  let directory := Path.directory path
  match files.makeDirectories (if directory.isEmpty then "." else directory) 0o777 with
  | (files, .error e) => (files, .error (refused "write" path (.system e)))
  | (files, .ok ()) =>
    match files.write path 0o666 (FileTree.jsonBytes v) with
    | .error e => (files, .error (refused "write" path (.system e)))
    | .ok files => (files, .ok ())

def setSources (files : FileTree) (path : Text) (sources : List Text) :
    FileTree × Except Failure Unit :=
  match read files path >>= withSources sources with
  | .error f => (files, .error f)
  | .ok v => write files path v

def remove (files : FileTree) (path : Text) : FileTree × Except Failure Unit :=
  if files.pathExists path then
    match files.remove path with
    | .ok files => (files, .ok ())
    | .error e => (files, .error (.foreign (.system e)))
  else (files, .ok ())

/-- The identifiers between commas, without blanks around them and without empty ones. -/
def identifiers (text : Text) : List Text :=
  ((splitAtChar (.char ',') text).map Blank.strip).filter fun identifier => !identifier.isEmpty

def checked (identifiers : List Text) : Except HelperError (List Text) :=
  (identifiers.mapM SourceKind.parse).map fun _ => identifiers

end CredentialHelper.UserFile
