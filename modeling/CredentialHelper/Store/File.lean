import CredentialHelper.Store.Contents

/-!
# The store file

The credential stands under one key of a JSON object in a file, whose other members belong to others
and are kept. A new content is first written to a neighbouring file that only the owner may read,
and then takes the place of the old one. `StoreFile.read`, `stage` and `commit` are the steps. The
operations that end in `Under` are the same where something goes wrong besides (`Faults`).
-/

namespace CredentialHelper.StoreFile

def key : Text := Text.ofString "gcrOAuth2Token"

def loginFirst : List Text := ["Run `docker-credential-gcr auth login` to store a credential"]

def about (path : Text) : Members := [(Text.ofString "path", .string path)]

/-- The error for a file that cannot be read, or `none` if the cause is no matter of the store. -/
def readError (path : Text) : Cause → Option HelperError
  | .system e =>
    if e.errno = .notFound then
      some (.root ⟨.storeRead, "no credential stored", loginFirst, about path⟩ (some (.system e)))
    else some (unreadable (.system e))
  | .document (.malformed e) => some (unreadable (.document (.malformed e)))
  | _ => none
where
  unreadable (cause : Cause) : HelperError :=
    .root ⟨.storeRead, "unable to read credential store " ++ path,
      ["Check file permissions or remove the corrupt file"], about path⟩ (some cause)

/-- What can go wrong with the file besides what the tree says. By default nothing does. -/
structure Faults extends FileTree.Limits where
  /-- Why the file cannot be read. -/
  reading : Option Cause := none
  /-- After how many bytes a content breaks off that is written, and why. -/
  breaking : Option (Nat × Cause) := none

def readUnder (faults : Faults) (tree : FileTree) (path : Text) : Except Failure Members :=
  match faults.reading.elim (tree.readJson path) .error with
  | .error cause =>
    match readError path cause with
    | some e => .error (.helper e)
    | none => .error (.foreign cause)
  | .ok (.object members) => .ok members
  | .ok _ =>
    .error (.helper (.root ⟨.storeRead, "unexpected content in credential store " ++ path, [],
      about path⟩ none))

def read (tree : FileTree) (path : Text) : Except Failure Members := readUnder {} tree path

def credential (path : Text) (members : Members) : Except Failure StoredCredential :=
  match members.get? key with
  | none => .error (.plain .storeRead "no credential stored" loginFirst (about path))
  | some v =>
    match StoredCredential.ofJson v with
    | .ok c => .ok c
    | .error report =>
      .error (.helper (.root ⟨.storeRead, "malformed credential in " ++ path, [], about path⟩
        (some (.invalid report))))

def stagingPath (path : Text) : Text := path ++ ".tmp"

def stageWithin (limits : FileTree.Limits) (tree : FileTree) (path : Text) (content : Bytes) :
    FileTree × Except SystemError Unit :=
  let directory := Path.directory path
  match tree.makeDirectoriesWithin limits (if directory.isEmpty then "." else directory) 0o700 with
  | (tree, .error e) => (tree, .error e)
  | (tree, .ok ()) =>
    match tree.writeWithin limits (stagingPath path) 0o600 content with
    | .error e => (tree, .error e)
    | .ok tree => (tree, .ok ())

def stage (tree : FileTree) (path : Text) (members : Members) :
    FileTree × Except SystemError Unit :=
  stageWithin {} tree path (FileTree.jsonBytes (.object members))

def commitWithin (limits : FileTree.Limits) (tree : FileTree) (path : Text) :
    FileTree × Except SystemError Unit :=
  match tree.replaceWithin limits (stagingPath path) path with
  | .error e => (tree, .error e)
  | .ok tree => (tree, .ok ())

def commit (tree : FileTree) (path : Text) : FileTree × Except SystemError Unit :=
  commitWithin {} tree path

/-- Only what the operating system reports is a matter of the store. -/
def unwritten (path : Text) (cause : Cause) : Failure :=
  if cause.isSystem then
    .helper (.root ⟨.storeWrite, "unable to write credential store " ++ path, [], about path⟩
      (some cause))
  else .foreign cause

/-- Writes an object into the file. A content that breaks off stays beside the file. -/
def writeUnder (faults : Faults) (tree : FileTree) (path : Text) (members : Members) :
    FileTree × Except Failure Unit :=
  let content := FileTree.jsonBytes (.object members)
  let front := faults.breaking.elim content fun (size, _) => content.take size
  match stageWithin faults.toLimits tree path front with
  | (tree, .error e) => (tree, .error (unwritten path (.system e)))
  | (tree, .ok ()) =>
    match faults.breaking with
    | some (_, cause) => (tree, .error (unwritten path cause))
    | none =>
      match commitWithin faults.toLimits tree path with
      | (tree, .error e) => (tree, .error (unwritten path (.system e)))
      | (tree, .ok ()) => (tree, .ok ())

def write (tree : FileTree) (path : Text) (members : Members) : FileTree × Except Failure Unit :=
  writeUnder {} tree path members

/-- The object to change: the one in the file, or an empty one if the file holds none. -/
def readOrEmptyUnder (faults : Faults) (tree : FileTree) (path : Text) : Except Failure Members :=
  match readUnder faults tree path with
  | .ok members => .ok members
  | .error (.helper _) => .ok []
  | .error (.foreign cause) => .error (.foreign cause)

def readOrEmpty (tree : FileTree) (path : Text) : Except Failure Members :=
  readOrEmptyUnder {} tree path

def saveUnder (faults : Faults) (tree : FileTree) (path : Text) (c : StoredCredential) :
    FileTree × Except Failure Unit :=
  match readOrEmptyUnder faults tree path with
  | .error f => (tree, .error f)
  | .ok members => writeUnder faults tree path (members.insert key c.toJson)

def save (tree : FileTree) (path : Text) (c : StoredCredential) : FileTree × Except Failure Unit :=
  saveUnder {} tree path c

/-- The tree without a credential in the file, and whether there was one. A null counts as none. -/
def removeUnder (faults : Faults) (tree : FileTree) (path : Text) :
    FileTree × Except Failure Bool :=
  match readUnder faults tree path with
  | .error (.helper _) => (tree, .ok false)
  | .error (.foreign cause) => (tree, .error (.foreign cause))
  | .ok members =>
    match members.get? key with
    | none => (tree, .ok false)
    | some .null => (tree, .ok false)
    | some _ =>
      match writeUnder faults tree path (members.erase key) with
      | (tree, .error f) => (tree, .error f)
      | (tree, .ok ()) => (tree, .ok true)

def remove (tree : FileTree) (path : Text) : FileTree × Except Failure Bool :=
  removeUnder {} tree path

/-! ## Where nothing else goes wrong -/

theorem read_def (tree : FileTree) (path : Text) : read tree path =
    match tree.readJson path with
    | .error cause =>
      match readError path cause with
      | some e => .error (.helper e)
      | none => .error (.foreign cause)
    | .ok (.object members) => .ok members
    | .ok _ =>
      .error (.helper (.root ⟨.storeRead, "unexpected content in credential store " ++ path, [],
        about path⟩ none)) := by
  unfold read readUnder
  rfl

theorem stage_def (tree : FileTree) (path : Text) (members : Members) : stage tree path members =
    match tree.makeDirectories
      (if (Path.directory path).isEmpty then "." else Path.directory path) 0o700 with
    | (tree, .error e) => (tree, .error e)
    | (tree, .ok ()) =>
      match tree.write (stagingPath path) 0o600 (FileTree.jsonBytes (.object members)) with
      | .error e => (tree, .error e)
      | .ok tree => (tree, .ok ()) := rfl

theorem commit_def (tree : FileTree) (path : Text) : commit tree path =
    match tree.replace (stagingPath path) path with
    | .error e => (tree, .error e)
    | .ok tree => (tree, .ok ()) := rfl

def refusal (path : Text) (e : SystemError) : Failure :=
  .helper (.root ⟨.storeWrite, "unable to write credential store " ++ path, [], about path⟩
    (some (.system e)))

theorem write_def (tree : FileTree) (path : Text) (members : Members) : write tree path members =
    match stage tree path members with
    | (tree, .error e) => (tree, .error (refusal path e))
    | (tree, .ok ()) =>
      match commit tree path with
      | (tree, .error e) => (tree, .error (refusal path e))
      | (tree, .ok ()) => (tree, .ok ()) := by
  unfold write writeUnder
  rfl

theorem readOrEmpty_def (tree : FileTree) (path : Text) : readOrEmpty tree path =
    match read tree path with
    | .ok members => .ok members
    | .error (.helper _) => .ok []
    | .error (.foreign cause) => .error (.foreign cause) := rfl

theorem save_def (tree : FileTree) (path : Text) (c : StoredCredential) : save tree path c =
    match readOrEmpty tree path with
    | .error f => (tree, .error f)
    | .ok members => write tree path (members.insert key c.toJson) := by
  unfold save saveUnder
  rfl

theorem remove_def (tree : FileTree) (path : Text) : remove tree path =
    match read tree path with
    | .error (.helper _) => (tree, .ok false)
    | .error (.foreign cause) => (tree, .error (.foreign cause))
    | .ok members =>
      match members.get? key with
      | none => (tree, .ok false)
      | some .null => (tree, .ok false)
      | some _ =>
        match write tree path (members.erase key) with
        | (tree, .error f) => (tree, .error f)
        | (tree, .ok ()) => (tree, .ok true) := by
  unfold remove removeUnder
  rfl

end CredentialHelper.StoreFile
