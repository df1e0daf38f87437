import CredentialHelper.Credential.Stored
import CredentialHelper.Failure.Error
import CredentialHelper.Host.FileTree
import CredentialHelper.Json.Reader
import CredentialHelper.Json.Writer

/-!
# The contents of a JSON file

A file is read as UTF-8 text in which every line ends in a line feed, whatever ended it in the file,
and the text as JSON. Reading tells apart that there is no file, that it cannot be read, and that
it holds no document.
-/

namespace CredentialHelper

/-- The text with a line feed for each carriage return and for each carriage return with a line
feed. -/
def unifyLines : Text → Text
  | [] => []
  | .char '\r' :: .char '\n' :: rest => '\n' :: unifyLines rest
  | .char '\r' :: rest => '\n' :: unifyLines rest
  | s :: rest => s :: unifyLines rest

namespace FileTree

def readText (tree : FileTree) (path : Text) : Except Cause Text :=
  match FileName.encode path with
  | .error e => .error (.fileName e)
  | .ok _ =>
    match tree.read path with
    | .error e => .error (.system e)
    | .ok bytes =>
      match Utf8.decode bytes with
      | .error e => .error (.decoding e)
      | .ok t => .ok (unifyLines t)

def readJson (tree : FileTree) (path : Text) : Except Cause Json :=
  match tree.readText path with
  | .error c => .error c
  | .ok t => (Json.parse t).mapError .document

def jsonBytes (v : Json) : Bytes := Utf8.encode (v.render .block)

end FileTree

end CredentialHelper
