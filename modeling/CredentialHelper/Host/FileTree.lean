import CredentialHelper.Failure.System
import CredentialHelper.Host.Path

/-!
# A tree of files

Directories and files with their permission bits, and the operations that the helper performs on
them: reading, creating or truncating, making directories, replacing and removing. Each operation
names its path as a text and fails with the number that the operating system gives. Nothing is found
under a path whose text names no file. New files and directories lose the permission bits for
writing by others. `get?_put` and `get?_erase` say what the two changes of a tree do to it.

An operation fails by what stands in the tree. The bits are carried along but restrain nobody, and
there is always room: so it is for a process that may do everything. What another process cannot do
stands in `Limits`, and the operations that end in `Within` fail by that as well.
-/

namespace CredentialHelper

/-- A place in a tree: the names from the root down. -/
abbrev Place := List Text

inductive Entry where
  | file (mode : Nat) (content : Bytes)
  | directory (mode : Nat)
  deriving DecidableEq, Repr

/-- The entries below a root, which is itself a directory. -/
structure FileTree where
  entries : List (Place × Entry)
  deriving DecidableEq, Repr, Inhabited

namespace FileTree

def empty : FileTree := ⟨[]⟩

/-- The entry at a place; the root is always there. -/
def get? (tree : FileTree) (place : Place) : Option Entry :=
  if place.isEmpty then some (.directory 0o755) else tree.entries.lookup place

def put (tree : FileTree) (place : Place) (entry : Entry) : FileTree :=
  let rec go : List (Place × Entry) → List (Place × Entry)
    | [] => [(place, entry)]
    | p :: rest => if p.1 = place then (place, entry) :: rest else p :: go rest
  ⟨go tree.entries⟩

def erase (tree : FileTree) (place : Place) : FileTree :=
  ⟨tree.entries.filter fun p => p.1 != place⟩

theorem lookup_cons (place place' : Place) (entry : Entry) (entries : List (Place × Entry)) :
    ((place', entry) :: entries).lookup place =
      if place = place' then some entry else entries.lookup place := by
  rw [List.lookup_cons]
  by_cases h : place = place'
  · simp [h]
  · rw [beq_eq_false_iff_ne.2 h, if_neg h]

theorem lookup_go (place place' : Place) (entry : Entry) (entries : List (Place × Entry)) :
    (put.go place entry entries).lookup place' =
      if place' = place then some entry else entries.lookup place' := by
  induction entries with
  | nil => rw [put.go, lookup_cons]
  | cons p rest ih =>
    obtain ⟨k, e⟩ := p
    rw [put.go]
    by_cases hk : k = place
    · rw [if_pos hk, lookup_cons, lookup_cons, hk]
      by_cases h : place' = place
      · rw [if_pos h, if_pos h]
      · rw [if_neg h, if_neg h, if_neg h]
    · rw [if_neg hk, lookup_cons, lookup_cons, ih]
      by_cases h : place' = place
      · rw [if_pos h, if_neg (by rw [h]; exact Ne.symm hk), if_pos h]
      · rw [if_neg h, if_neg h]

theorem lookup_filter (place place' : Place) (entries : List (Place × Entry)) :
    (entries.filter fun p => p.1 != place).lookup place' =
      if place' = place then none else entries.lookup place' := by
  induction entries with
  | nil => simp
  | cons p rest ih =>
    obtain ⟨k, e⟩ := p
    by_cases hk : k = place
    · rw [List.filter_cons_of_neg (by simp [hk]), ih, lookup_cons, hk]
      by_cases h : place' = place
      · rw [if_pos h, if_pos h]
      · rw [if_neg h, if_neg h, if_neg h]
    · rw [List.filter_cons_of_pos (by simp [hk]), lookup_cons, lookup_cons, ih]
      by_cases h : place' = place
      · rw [if_pos h, if_neg (by rw [h]; exact Ne.symm hk), if_pos h]
      · rw [if_neg h, if_neg h]

theorem get?_eq_lookup {tree : FileTree} {place : Place} (h : place ≠ []) :
    tree.get? place = tree.entries.lookup place := by
  simp [get?, h]

/-- What is put at a place is found there, and nothing else changes. -/
theorem get?_put (tree : FileTree) (place place' : Place) (entry : Entry) (h : place' ≠ []) :
    (tree.put place entry).get? place' =
      if place' = place then some entry else tree.get? place' := by
  rw [get?_eq_lookup h, get?_eq_lookup h]
  exact lookup_go place place' entry tree.entries

/-- Nothing is at a place from which the entry is taken away, and nothing else changes. -/
theorem get?_erase (tree : FileTree) (place place' : Place) (h : place' ≠ []) :
    (tree.erase place).get? place' = if place' = place then none else tree.get? place' := by
  rw [get?_eq_lookup h, get?_eq_lookup h]
  exact lookup_filter place place' tree.entries

/-- What a process cannot do with files for reasons that a tree does not hold, such as permission
bits that bind it or a full disk. By default there is nothing that it cannot do. -/
structure Limits where
  /-- Whether nothing is seen under a path. -/
  hides : Text → Bool := fun _ => false
  /-- Why a directory cannot be made. -/
  directory : Text → Option Errno := fun _ => none
  /-- Why a file cannot be opened to be written. -/
  file : Text → Option Errno := fun _ => none
  /-- Why a file cannot be moved to a path. -/
  move : Text → Option Errno := fun _ => none

def masked (mode : Nat) : Nat := mode &&& 0o755

/-- Where a path leads: to a directory that it names by dots or as the root, or to a name in a
directory, with a slash behind it or not. -/
inductive Spot where
  | directory (place : Place)
  | name (parent : Place) (last : Text) (slash : Bool)
  deriving DecidableEq, Repr

/-- The name of the root of all places, which lies outside the tree. -/
def rootName : Text := "/"

def parentName : Text := ".."

/-- The place around a place. Above the root of the tree every step is one more name of two dots,
and the root of all places is around itself. -/
def parentOf (place : Place) : Place :=
  if place = [rootName] then place
  else if place.all (· == parentName) then place ++ [parentName]
  else place.dropLast

def step (tree : FileTree) (place : Place) (name : Text) : Except Errno Place :=
  if name = "." then .ok place
  else if name = parentName then .ok (parentOf place)
  else if 255 < FileName.size name then .error .nameTooLong
  else match tree.get? (place ++ [name]) with
    | some (.directory _) => .ok (place ++ [name])
    | some (.file _ _) => .error .notDirectory
    | none => .error .notFound

/-- The place where a path from the root of the tree begins: a path that starts with a slash leads
out of the tree, to places of its own. -/
def start (path : Text) : Place := if path.head? = some Path.slash then [rootName] else []

def spot (tree : FileTree) (path : Text) : Except Errno Spot :=
  if path.isEmpty || !(FileName.encode path).isOk then .error .notFound
  else if 4096 ≤ FileName.size path then .error .nameTooLong
  else
    let names := (Path.names path).map FileName.canonical
    match names.getLast? with
    | none => .ok (.directory (start path))
    | some last => do
      let parent ← names.dropLast.foldlM (step tree) (start path)
      if last = "." then return .directory parent
      else if last = parentName then return .directory (parentOf parent)
      else if 255 < FileName.size last then throw .nameTooLong
      else return .name parent last (path.getLast? == some Path.slash)

def stat (tree : FileTree) (path : Text) : Except Errno Entry := do
  match ← tree.spot path with
  | .directory place => return (tree.get? place).getD (.directory 0o755)
  | .name parent last slash =>
    match tree.get? (parent ++ [last]) with
    | none => throw .notFound
    | some (.file mode content) => if slash then throw .notDirectory else return .file mode content
    | some e => return e

def pathExists (tree : FileTree) (path : Text) : Bool := (tree.stat path).isOk

def isDirectory (tree : FileTree) (path : Text) : Bool :=
  match tree.stat path with
  | .ok (.directory _) => true
  | _ => false

def isFile (tree : FileTree) (path : Text) : Bool :=
  match tree.stat path with
  | .ok (.file _ _) => true
  | _ => false

def read (tree : FileTree) (path : Text) : Except SystemError Bytes :=
  match tree.stat path with
  | .error errno => .error ⟨errno, path, none⟩
  | .ok (.directory _) => .error ⟨.isDirectory, path, none⟩
  | .ok (.file _ content) => .ok content

/-- The tree in which a file has a new content. A file that is created gets the mode, and one that
is there keeps its own. -/
def write (tree : FileTree) (path : Text) (mode : Nat) (content : Bytes) :
    Except SystemError FileTree :=
  match tree.spot path with
  | .error errno => .error ⟨errno, path, none⟩
  | .ok (.directory _) => .error ⟨.isDirectory, path, none⟩
  | .ok (.name parent last slash) =>
    if slash then .error ⟨.isDirectory, path, none⟩
    else match tree.get? (parent ++ [last]) with
      | some (.directory _) => .error ⟨.isDirectory, path, none⟩
      | some (.file mode _) => .ok (tree.put (parent ++ [last]) (.file mode content))
      | none => .ok (tree.put (parent ++ [last]) (.file (masked mode) content))

def writeWithin (limits : Limits) (tree : FileTree) (path : Text) (mode : Nat) (content : Bytes) :
    Except SystemError FileTree :=
  match limits.file path with
  | some errno => .error ⟨errno, path, none⟩
  | none => tree.write path mode content

def makeDirectory (tree : FileTree) (path : Text) (mode : Nat) : Except SystemError FileTree :=
  match tree.spot path with
  | .error errno => .error ⟨errno, path, none⟩
  | .ok (.directory _) => .error ⟨.exists, path, none⟩
  | .ok (.name parent last _) =>
    match tree.get? (parent ++ [last]) with
    | some _ => .error ⟨.exists, path, none⟩
    | none => .ok (tree.put (parent ++ [last]) (.directory (masked mode)))

/-- The path of the directory around what a path names, and the last name; slashes at the end of the
path do not count. -/
def around (path : Text) : Text × Text :=
  let (head, tail) := Path.split path
  if tail.isEmpty then Path.split head else (head, tail)

def makeDirectoryWithin (limits : Limits) (tree : FileTree) (path : Text) (mode : Nat) :
    Except SystemError FileTree :=
  match limits.directory path with
  | some errno => .error ⟨errno, path, none⟩
  | none => tree.makeDirectory path mode

/-- Makes one directory, and accepts one that is seen there. -/
def ensureWithin (limits : Limits) (tree : FileTree) (path : Text) (mode : Nat) :
    FileTree × Except SystemError Unit :=
  match tree.makeDirectoryWithin limits path mode with
  | .ok made => (made, .ok ())
  | .error e => (tree, if !limits.hides path && tree.isDirectory path then .ok () else .error e)

/-- Makes a directory and those around it. Only the innermost gets the mode. The directories that
were made before a failure stay. The fuel bounds the number of directories; the length of the path
is enough. -/
def makeDirectoriesFrom (limits : Limits) (tree : FileTree) (path : Text) (mode : Nat) :
    Nat → FileTree × Except SystemError Unit
  | 0 => (tree, .ok ())
  | fuel + 1 =>
    let (head, tail) := around path
    if !head.isEmpty && !tail.isEmpty && !(!limits.hides head && tree.pathExists head) then
      let (tree, made) := makeDirectoriesFrom limits tree head 0o777 fuel
      match made with
      | .error e =>
        if e.errno ≠ .exists then (tree, .error e)
        else if tail = "." then (tree, .ok ())
        else tree.ensureWithin limits path mode
      | .ok () => if tail = "." then (tree, .ok ()) else tree.ensureWithin limits path mode
    else tree.ensureWithin limits path mode

def makeDirectoriesWithin (limits : Limits) (tree : FileTree) (path : Text) (mode : Nat) :
    FileTree × Except SystemError Unit :=
  makeDirectoriesFrom limits tree path mode (path.length + 1)

def makeDirectories (tree : FileTree) (path : Text) (mode : Nat) :
    FileTree × Except SystemError Unit :=
  makeDirectoriesWithin {} tree path mode

def replace (tree : FileTree) (source target : Text) : Except SystemError FileTree :=
  let fail (errno : Errno) : Except SystemError FileTree := .error ⟨errno, source, some target⟩
  match tree.spot source with
  | .error errno => fail errno
  | .ok origin =>
    match tree.spot target with
    | .error errno => fail errno
    | .ok destination =>
      match origin, destination with
      | .name parent last slash, .name parent' last' slash' =>
        match tree.get? (parent ++ [last]) with
        | none => fail .notFound
        | some (.directory _) => fail .notDirectory
        | some (.file mode content) =>
          if slash || slash' then fail .notDirectory
          else match tree.get? (parent' ++ [last']) with
            | some (.directory _) => fail .isDirectory
            | _ =>
              .ok ((tree.erase (parent ++ [last])).put (parent' ++ [last']) (.file mode content))
      | _, _ => fail .busy

def replaceWithin (limits : Limits) (tree : FileTree) (source target : Text) :
    Except SystemError FileTree :=
  match limits.move target with
  | some errno => .error ⟨errno, source, some target⟩
  | none => tree.replace source target

def remove (tree : FileTree) (path : Text) : Except SystemError FileTree :=
  match tree.spot path with
  | .error errno => .error ⟨errno, path, none⟩
  | .ok (.directory _) => .error ⟨.isDirectory, path, none⟩
  | .ok (.name parent last slash) =>
    match tree.get? (parent ++ [last]) with
    | none => .error ⟨.notFound, path, none⟩
    | some (.directory _) => .error ⟨.isDirectory, path, none⟩
    | some (.file _ _) =>
      if slash then .error ⟨.notDirectory, path, none⟩ else .ok (tree.erase (parent ++ [last]))

def setMode (tree : FileTree) (path : Text) (mode : Nat) : Except SystemError FileTree :=
  match tree.spot path, tree.stat path with
  | .ok (.name parent last _), .ok (.file _ content) =>
    .ok (tree.put (parent ++ [last]) (.file mode content))
  | .ok (.name parent last _), .ok (.directory _) =>
    .ok (tree.put (parent ++ [last]) (.directory mode))
  | _, .error errno => .error ⟨errno, path, none⟩
  | _, .ok _ => .ok tree

end FileTree

end CredentialHelper
