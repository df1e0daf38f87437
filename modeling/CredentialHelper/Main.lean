import CredentialHelper.CommandLine.Run
import Std.Time.DateTime.Timestamp

/-!
# The program

The arguments, the input, the environment, the clock and the two files of the helper are read, the
run is computed, and what it changed in the files is written back. The program itself has no
network, starts no other program and opens no browser: these collaborators answer that they are not
there.
-/

namespace CredentialHelper.Program

partial def readAll (stream : IO.FS.Stream) (read : ByteArray) : IO ByteArray := do
  let chunk ← stream.read 65536
  if chunk.isEmpty then return read else readAll stream (read ++ chunk)

def settingVariables : List String :=
  ["HOME", Settings.fileVariable] ++ Settings.names.map fun name =>
    (Settings.variablePrefix ++ name).toUpper

def environment : IO (List (Text × Text)) :=
  settingVariables.filterMapM fun name => do
    return (← IO.getEnv name).map fun value => (Text.ofString name, Text.ofString value)

/-- The number of microseconds from the beginning of year 1 to that of 1970. -/
def microsBeforeUnix : Int := 62135596800000000

def clock : IO Instant := do
  let nanos := (← Std.Time.Timestamp.now).toNanosecondsSinceUnixEpoch.toInt
  match wallTime? (microsBeforeUnix + nanos / 1000) with
  | some t => return t
  | none => throw (IO.userError "the clock is out of range")

def absent (kind message : String) : Failure :=
  .foreign (.collaborator ⟨kind, [.data (Json.ofString message)]⟩)

def world (now : Instant) (environment : List (Text × Text)) (files : FileTree) : World where
  now := now
  environment := environment
  accounts := []
  files := files
  http := ⟨[], .error (absent "ConnectError" "no network")⟩
  programs := ⟨[], .absent⟩
  detections := ⟨[], .error (absent "DefaultCredentialsError" "no default credential")⟩
  logins := ⟨[], .error (absent "OSError" "no browser")⟩
  events := []
  journal := []

def withFile (path : Text) (tree : FileTree) : IO FileTree := do
  match ← (IO.FS.readBinFile path.toStringLossy).toBaseIO with
  | .error _ => return tree
  | .ok bytes =>
    let tree := (tree.makeDirectories (Path.directory path) 0o755).1
    match tree.write path 0o644 bytes.toList with
    | .error _ => return tree
    | .ok tree => return tree

def pathOf (place : Place) : String :=
  let names (names : Place) : Text := Text.join [Path.slash] names
  Text.toStringLossy
    (if place.head? = some FileTree.rootName then Path.slash :: names (place.drop 1)
     else names place)

def accessOf (bits : Nat) : IO.AccessRight :=
  ⟨bits.testBit 2, bits.testBit 1, bits.testBit 0⟩

def rightsOf (mode : Nat) : IO.FileRight :=
  ⟨accessOf (mode / 64), accessOf (mode / 8), accessOf mode⟩

/-- Writes an entry to the disk. A file with another mode than before takes the place of the old
one. -/
def writeEntry (before : FileTree) (place : Place) (entry : Entry) : IO Unit := do
  let path := pathOf place
  match before.get? place, entry with
  | _, .directory mode =>
    match ← (IO.FS.createDir path).toBaseIO with
    | .ok () => IO.setAccessRights path (rightsOf mode)
    | .error _ => return
  | some (.file mode _), .file mode' bytes =>
    if mode = mode' then IO.FS.writeBinFile path ⟨bytes.toArray⟩
    else replaceFile path mode' bytes
  | _, .file mode bytes => replaceFile path mode bytes
where
  replaceFile (path : String) (mode : Nat) (bytes : Bytes) : IO Unit := do
    let staging := (StoreFile.stagingPath path).toStringLossy
    IO.FS.writeBinFile staging ⟨#[]⟩
    IO.setAccessRights staging (rightsOf mode)
    IO.FS.writeBinFile staging ⟨bytes.toArray⟩
    IO.FS.rename staging path

def writeBack (before after : FileTree) : IO Unit := do
  for (place, entry) in after.entries do
    if before.get? place ≠ some entry then writeEntry before place entry
  for (place, entry) in before.entries do
    match entry, after.get? place with
    | .file _ _, none => IO.FS.removeFile (pathOf place)
    | _, _ => pure ()

end CredentialHelper.Program

open CredentialHelper Program in
def main (arguments : List String) : IO UInt32 := do
  let input ← readAll (← IO.getStdin) ByteArray.empty
  let known ← environment
  let now ← clock
  let bare := world now known FileTree.empty
  let configured ← match Settings.userFile bare with
    | .ok path => withFile path FileTree.empty
    | .error _ => pure FileTree.empty
  let store : Option CredentialStore := do
    let settings ← (Settings.load [] (world now known configured)).toOption
    (settings.store bare.homes).toOption
  let files ← match store with
    | some store => withFile store.path configured
    | none => pure configured
  let (outcome, after) :=
    CommandLine.run (arguments.map Text.ofString) input.toList (world now known files)
  writeBack files after.files
  (← IO.getStdout).putStr outcome.output.toStringLossy
  (← IO.getStderr).putStr outcome.messages.toStringLossy
  match outcome.ending with
  | .status n => return n.toUInt32
  | .crash f =>
    (← IO.getStderr).putStr (f.message ++ "\n").escaped
    return 1
