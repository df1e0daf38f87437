import CredentialHelper.Host.World
import CredentialHelper.Settings.Basic
import CredentialHelper.Store.Contents
import CredentialHelper.Text.Case

/-!
# Where settings come from

There are three layers: what the caller gives, the environment, and the user's configuration file.
For each setting the first layer that has it decides. The names of settings are compared without
regard to case.
-/

namespace CredentialHelper.Settings

/-! ## The file -/

def parts? : Json → Option (List Json)
  | .array items => some items
  | .string t => some (t.map fun s => .string [s])
  | .object members => some (members.map fun p => .string p.1)
  | _ => none

/-- The key and the value that the element of a list is. A list or an object can be no key. -/
def pairOf (index : Nat) (element : Json) : Except Cause (Json × Json) :=
  let subject := "dictionary update sequence element #" ++ toString index
  match parts? element with
  | none => .error (.nature ("cannot convert " ++ subject ++ " to a sequence"))
  | some [.array _, _] => .error (.nature "unhashable type: 'list'")
  | some [.object _, _] => .error (.nature "unhashable type: 'dict'")
  | some [key, value] => .ok (key, value)
  | some parts =>
    .error (.argument (subject ++ " has length " ++ toString parts.length ++ "; 2 is required"))

def memberOf : Json × Json → Except Cause (Text × Json)
  | (.string name, value) => .ok (name, value)
  | (key, _) =>
    .error (.operation ("'" ++ Literal.nature key ++ "' object has no attribute 'lower'"))

/-- The members that a document holds: an object, or a list of pairs. -/
def membersOf (document : Json) : Except Cause Members :=
  match document, parts? document with
  | .object members, _ => .ok members
  | _, some elements => do
    let pairs ← elements.zipIdx.mapM fun p => pairOf p.2 p.1
    return Members.ofPairs (← pairs.mapM memberOf)
  | _, none => .error (.nature ("'" ++ Literal.nature document ++ "' object is not iterable"))

/-- The members in a file. A file that is not there or holds only blanks has none. -/
def ofFile (homes : Homes) (files : FileTree) (path : Text) : Except Cause Members :=
  match Path.expandKnown? homes path with
  | none => .error .noHome
  | some path =>
    match files.stat path with
    | .ok (.directory _) => .ok []
    | .ok (.file _ _) => do
      let text ← files.readText path
      if (Blank.strip text).isEmpty then return []
      else membersOf (← (Json.parse text).mapError .document)
    | .error errno =>
      if errno = .notFound ∨ errno = .notDirectory then .ok []
      else .error (.system ⟨errno, path, none⟩)

def fileVariable : String := "GCR_HELPER_CONFIG_FILE"

def userFile (w : World) : Except NameError Text :=
  Path.expand w.homes ((w.environment? fileVariable).getD Default.configFile)

/-! ## The environment -/

def variablePrefix : String := "gcr_helper_"

/-- The text of a setting in the environment. Of several names that differ in case the last one
decides. -/
def text? (environment : List (Text × Text)) (name : String) : Option Text :=
  let named (p : Text × Text) : Bool := lowercase p.1 == Text.ofString (variablePrefix ++ name)
  (environment.reverse.find? named).map (·.2)

/-- The token sources that a text gives as JSON; null gives none. -/
def sourcesOfText (text : Text) : Except Cause Members :=
  match Json.parse text with
  | .ok .null => .ok []
  | .ok v => .ok [(Text.ofString "token_sources", v)]
  | .error (.tooDeep isArray) => .error (.document (.tooDeep isArray))
  | .error _ => .error (.setting "token_sources")

/-- The settings of the environment: the token sources as JSON, and every other one as text. -/
def ofEnvironment (environment : List (Text × Text)) : Except Cause Members := do
  let sources ← match text? environment "token_sources" with
    | some text => sourcesOfText text
    | none => pure []
  let texts := (names.erase "token_sources").filterMap fun name =>
    (text? environment name).map fun text => (Text.ofString name, .string text)
  return sources ++ texts

/-! ## All layers -/

/-- The first member whose name is the given one or differs from it in case only. -/
def ignoringCase? (name : String) (members : Members) : Option Json :=
  (members.find? fun p => lowercase p.1 == Text.ofString name).map (·.2)

def recognized (members : Members) : Members :=
  names.filterMap fun name => (ignoringCase? name members).map fun v => (Text.ofString name, v)

def load (given : Members) (w : World) : Except Cause Settings := do
  let file ← (userFile w).mapError .fileName
  let filed ← ofFile w.homes w.files file
  let environment ← ofEnvironment w.environment
  (ofMembers (recognized given ++ environment ++ recognized filed)).mapError .invalid

def loadOnce (held : Option Settings) (w : World) : Except Cause Settings :=
  match held with
  | some settings => .ok settings
  | none => load [] w

end CredentialHelper.Settings
