import CredentialHelper.Proofs.Effects
import CredentialHelper.Proofs.StoreFile
import CredentialHelper.Store.Access

/-!
# The store as a cell

`StoreFile.Starts` says where a store can begin.  From there every history of calls leaves what it
would leave in a cell for one credential: nothing is refused, a credential is loaded as it was
saved, and what else stands in the file stays as it was.
-/

namespace CredentialHelper

namespace StoreFile

variable {tree made : FileTree} {path : Text} {parent : Place} {others : Members}
  {cell : Option StoredCredential}

/-- A store file that can be written again, with a credential or none and other members. -/
structure Holds (tree : FileTree) (path : Text) (parent : Place) (others : Members)
    (cell : Option StoredCredential) : Prop where
  ready : Ready tree path parent
  read : ∃ members, read tree path = .ok members ∧ members.erase key = others ∧
    (∀ p ∈ members, Json.FloatFree p.2) ∧ members.get? key = cell.map StoredCredential.toJson
  storable : ∀ c ∈ cell, c.Storable

theorem save_holds {members : Members} {c : StoredCredential} (hc : c.Storable)
    (hmade : tree.makeDirectories (folder path) 0o700 = (made, .ok ()))
    (hready : Ready made path parent) (hread : readOrEmpty tree path = .ok members)
    (hfree : ∀ p ∈ members, Json.FloatFree p.2) :
    ∃ after, save tree path c = (after, .ok ()) ∧
      Holds after path parent (members.erase key) (some c) := by
  have hwrite := write_eq (members.insert key c.toJson) hmade hready
  have hafter := hready.withContent (FileTree.jsonBytes (.object (members.insert key c.toJson)))
  have hfree' : ∀ p ∈ members.insert key c.toJson, Json.FloatFree p.2 := by
    intro p hp
    rcases Members.mem_insert hp with rfl | hp
    · exact StoredCredential.floatFree_toJson c
    · exact hfree p hp
  have hreadable := readable_insert (readable_of_readOrEmpty hread) hc
  refine ⟨_, ?_, hafter, ⟨members.insert key c.toJson, ?_, ?_, hfree', ?_⟩, ?_⟩
  · rw [save_def, hread]
    exact hwrite
  · rw [read_of_write hwrite hreadable, Json.FloatFree.rereadMembers hfree']
  · exact Members.erase_insert key c.toJson members
  · rw [Members.get?_insert, if_pos rfl]
    rfl
  · rintro c' ⟨⟩
    exact hc

theorem remove_holds {c : StoredCredential} (h : Holds tree path parent others (some c)) :
    ∃ after, remove tree path = (after, .ok true) ∧ Holds after path parent others none := by
  obtain ⟨members, hread, hothers, hfree, hget⟩ := h.read
  have hreadable := readable_of_read hread
  have hwrite := write_eq (members.erase key) h.ready.makeDirectories h.ready
  have hafter := h.ready.withContent (FileTree.jsonBytes (.object (members.erase key)))
  have hsub := Members.erase_sublist key members
  have hfree' : ∀ p ∈ members.erase key, Json.FloatFree p.2 := fun p hp => hfree p (hsub.subset hp)
  have hkey : key ∉ (members.erase key).keys := by
    cases hreadable with
    | object hdepth hkeys hjoined hmembers => exact Members.not_mem_keys_erase hkeys
  refine ⟨_, ?_, hafter, ⟨members.erase key, ?_, ?_, hfree', ?_⟩, nofun⟩
  · rw [remove_def, hread]
    dsimp only
    rw [hget]
    simp only [Option.map_some, StoredCredential.toJson, Json.ofMembers, hwrite]
  · rw [read_of_write hwrite (hreadable.erase key), Json.FloatFree.rereadMembers hfree']
  · rw [Members.erase_of_not_mem hkey, hothers]
  · exact Members.get?_eq_none_iff.2 hkey

theorem remove_none {members : Members} (hread : read tree path = .ok members)
    (h : members.get? key = none) : remove tree path = (tree, .ok false) := by
  rw [remove_def, hread]
  simp only [h]

/-- What stands in a store file besides the credential; a file that is missing holds nothing. -/
def HasOthers (tree : FileTree) (path : Text) (others : Members) : Prop :=
  tree.stat path = .error .notFound ∧ others = [] ∨
    ∃ members, read tree path = .ok members ∧ members.erase key = others

/-- Where a store begins: a path that fits, whose directory is there or can be made, and at which
neither the file nor the neighbouring one is then a directory.  The file is missing or holds an
object without a credential and without floating-point numbers. -/
structure Starts (tree : FileTree) (path : Text) (others : Members) : Prop where
  fits : Fits path
  made : ∃ made, tree.makeDirectories (folder path) 0o700 = (made, .ok ()) ∧
    made.isDirectory (folder path) = true ∧ made.isDirectory path = false ∧
      made.isDirectory (stagingPath path) = false
  content : tree.stat path = .error .notFound ∧ others = [] ∨
    read tree path = .ok others ∧ others.get? key = none
  floatFree : ∀ p ∈ others, Json.FloatFree p.2

theorem not_directory_of_spot {last : Text} {mode : Nat}
    (hspot : tree.spot path = .ok (.name parent last false)) (h : tree.isDirectory path = false) :
    tree.get? (parent ++ [last]) ≠ some (.directory mode) := by
  intro hentry
  rw [FileTree.isDirectory, FileTree.stat_of_directory hspot hentry] at h
  cases h

theorem Fits.exists_ready (h : Fits path) (hfolder : tree.isDirectory (folder path) = true)
    (hfile : tree.isDirectory path = false)
    (hstaged : tree.isDirectory (stagingPath path) = false) : ∃ parent, Ready tree path parent := by
  obtain ⟨-, parent, hwalk⟩ := FileTree.walk_of_isDirectory hfolder
  rw [walk_folder] at hwalk
  exact ⟨parent, h, hfolder, hwalk, fun mode => not_directory_of_spot (h.spot hwalk) hfile,
    fun mode => not_directory_of_spot (h.spot_staging hwalk) hstaged⟩

namespace Starts

theorem exists_ready (h : Starts tree path others) :
    ∃ made parent, tree.makeDirectories (folder path) 0o700 = (made, .ok ()) ∧
      Ready made path parent := by
  obtain ⟨made, hmade, hfolder, hfile, hstaged⟩ := h.made
  obtain ⟨parent, hready⟩ := h.fits.exists_ready hfolder hfile hstaged
  exact ⟨made, parent, hmade, hready⟩

end Starts

theorem read_eq_error (hallowed : ∀ s ∈ path, FileName.Allowed s)
    (h : tree.stat path = .error .notFound) :
    ∃ cause, read tree path = .error (.helper (.root
      ⟨.storeRead, "no credential stored", loginFirst, about path⟩ cause)) := by
  have hbytes : tree.read path = .error ⟨.notFound, path, none⟩ := by
    rw [FileTree.read, h]
  refine ⟨some (.system ⟨.notFound, path, none⟩), ?_⟩
  rw [read_def, FileTree.readJson, FileTree.readText, FileName.encode_eq_ok hallowed, hbytes]
  rfl

/-- What a history of calls leaves: the tree of the beginning, or a store file that holds what the
cell holds. -/
def Keeps (start tree : FileTree) (path : Text) (others : Members)
    (cell : Option StoredCredential) : Prop :=
  tree = start ∧ cell = none ∨ ∃ parent, Holds tree path parent others cell

namespace Keeps

variable {start : FileTree}

theorem save (hstart : Starts start path others) (h : Keeps start tree path others cell)
    {c : StoredCredential} (hc : c.Storable) :
    ∃ after, StoreFile.save tree path c = (after, .ok ()) ∧
      Keeps start after path others (some c) := by
  rcases h with ⟨rfl, rfl⟩ | ⟨parent, hholds⟩
  · obtain ⟨made, parent, hmade, hready⟩ := hstart.exists_ready
    rcases hstart.content with ⟨hmissing, rfl⟩ | ⟨hread, hkey⟩
    · obtain ⟨cause, herror⟩ := read_eq_error hstart.fits.allowed hmissing
      have hempty : readOrEmpty tree path = .ok [] := by
        rw [readOrEmpty_def, herror]
      obtain ⟨after, hsave, hafter⟩ := save_holds hc hmade hready hempty hstart.floatFree
      exact ⟨after, hsave, .inr ⟨parent, hafter⟩⟩
    · have hmembers : readOrEmpty tree path = .ok others := by
        rw [readOrEmpty_def, hread]
      obtain ⟨after, hsave, hafter⟩ := save_holds hc hmade hready hmembers hstart.floatFree
      rw [Members.erase_of_not_mem (Members.get?_eq_none_iff.1 hkey)] at hafter
      exact ⟨after, hsave, .inr ⟨parent, hafter⟩⟩
  · obtain ⟨members, hread, hothers, hfree, -⟩ := hholds.read
    have hmembers : readOrEmpty tree path = .ok members := by
      rw [readOrEmpty_def, hread]
    obtain ⟨after, hsave, hafter⟩ :=
      save_holds hc hholds.ready.makeDirectories hholds.ready hmembers hfree
    rw [hothers] at hafter
    exact ⟨after, hsave, .inr ⟨parent, hafter⟩⟩

theorem remove (hstart : Starts start path others) (h : Keeps start tree path others cell) :
    ∃ after removed, StoreFile.remove tree path = (after, .ok removed) ∧
      Keeps start after path others none := by
  rcases h with ⟨rfl, rfl⟩ | ⟨parent, hholds⟩
  · rcases hstart.content with ⟨hmissing, rfl⟩ | ⟨hread, hkey⟩
    · obtain ⟨cause, herror⟩ := read_eq_error hstart.fits.allowed hmissing
      refine ⟨tree, false, ?_, .inl ⟨rfl, rfl⟩⟩
      rw [StoreFile.remove_def, herror]
    · exact ⟨tree, false, remove_none hread hkey, .inl ⟨rfl, rfl⟩⟩
  · cases cell with
    | none =>
      obtain ⟨members, hread, -, -, hkey⟩ := hholds.read
      exact ⟨tree, false, remove_none hread hkey, .inr ⟨parent, hholds⟩⟩
    | some c =>
      obtain ⟨after, hremove, hafter⟩ := remove_holds hholds
      exact ⟨after, true, hremove, .inr ⟨parent, hafter⟩⟩

theorem hasOthers (hstart : Starts start path others) (h : Keeps start tree path others cell) :
    HasOthers tree path others := by
  rcases h with ⟨rfl, rfl⟩ | ⟨parent, hholds⟩
  · rcases hstart.content with hmissing | ⟨hread, hkey⟩
    · exact .inl hmissing
    · exact .inr ⟨others, hread, Members.erase_of_not_mem (Members.get?_eq_none_iff.1 hkey)⟩
  · obtain ⟨members, hread, hothers, -, -⟩ := hholds.read
    exact .inr ⟨members, hread, hothers⟩

end Keeps

end StoreFile

namespace FileTree

theorem isDirectory_dot (tree : FileTree) : tree.isDirectory "." = true := by
  have hdot : FileName.canonical (Text.ofString ".") = Text.ofString "." :=
    FileName.canonical_map_char (by decide)
  have hnames : Path.names (Text.ofString ".") = [] ++ [Text.ofString "."] := rfl
  have hspot : tree.spot "." = .ok (.directory []) := by
    rw [spot_concat tree usable_dot hnames, hdot]
    rfl
  rw [isDirectory, stat, hspot]
  rfl

theorem get?_empty (parent : Place) (name : Text) : empty.get? (parent ++ [name]) = none := by
  rw [get?_eq_lookup (by simp)]
  rfl

theorem stat_empty {path : Text} (h : Path.EndsInName path) (husable : Usable path)
    (hsize : FileName.size (Path.split path).2 ≤ 255) (hdirectory : Path.directory path = []) :
    empty.stat path = .error .notFound := by
  have hwalk : empty.walk (start path) (Path.names (Path.directory path)) = .ok (start path) := by
    rw [hdirectory]
    rfl
  exact stat_of_none (spot_of_endsInName h husable hsize hwalk) (get?_empty _ _)

end FileTree

namespace StoreFile

theorem isDirectory_folder (tree : FileTree) {path : Text} (h : Path.directory path = []) :
    tree.isDirectory (folder path) = true := by
  have hfolder : folder path = "." := by
    rw [folder, h]
    rfl
  rw [hfolder, FileTree.isDirectory_dot]

theorem fits_of_name {name : Text} (hslash : Path.slash ∉ name) (hnil : name ≠ [])
    (hdot : name ≠ Text.ofString ".") (hdots : name ≠ Text.ofString "..")
    (hallowed : ∀ s ∈ name, FileName.Allowed s)
    (hsize : FileName.size (stagingPath name) ≤ 255) : Fits name := by
  have hsplit := Path.split_of_not_mem hslash
  have hsplit' := split_staging name
  rw [hsplit] at hsplit'
  refine ⟨⟨?_, ?_, ?_⟩, hallowed, by omega, ?_⟩
  · rw [hsplit]
    exact hnil
  · rw [hsplit]
    exact hdot
  · rw [hsplit]
    exact hdots
  · rw [hsplit']
    exact hsize

theorem starts_empty {path : Text} (h : Fits path) (hdirectory : Path.directory path = []) :
    Starts FileTree.empty path [] := by
  have hfolder := isDirectory_folder FileTree.empty hdirectory
  have hfile := FileTree.stat_empty h.endsInName h.usable h.size_last hdirectory
  have hstaged := FileTree.stat_empty (endsInName_staging path) h.usable_staging h.size_name
    ((directory_staging path).trans hdirectory)
  refine ⟨h, ⟨FileTree.empty, FileTree.makeDirectories_of_isDirectory hfolder _, hfolder, ?_, ?_⟩,
    .inl ⟨hfile, rfl⟩, nofun⟩
  · rw [FileTree.isDirectory, hfile]
  · rw [FileTree.isDirectory, hstaged]

end StoreFile

/-! ## Histories of calls -/

inductive StoreCall where
  | save (c : StoredCredential)
  | delete
  | load

namespace StoreCall

/-- What a call leaves in a cell for one credential. -/
def onCell (cell : Option StoredCredential) : StoreCall → Option StoredCredential
  | .save c => some c
  | .delete => none
  | .load => cell

def onWorld (s : CredentialStore) (w : World) : StoreCall → World
  | .save c => ((s.save c).runOn w).2
  | .delete => (s.delete.runOn w).2
  | .load => (s.load.runOn w).2

end StoreCall

namespace CredentialStore

/-- What loading from a cell gives: its credential, or the error that there is none. -/
def Loads (s : CredentialStore) (cell : Option StoredCredential)
    (outcome : Except Failure StoredCredential) : Prop :=
  match cell with
  | some c => outcome = .ok c
  | none => ∃ cause, outcome = .error (.helper (.root
      ⟨.storeRead, "no credential stored", StoreFile.loginFirst, StoreFile.about s.path⟩ cause))

variable {s : CredentialStore} {w : World} {others : Members} {cell : Option StoredCredential}

/-- Every call leaves what the cell holds after it. -/
theorem keeps_onWorld {start : FileTree} (hstart : StoreFile.Starts start s.path others)
    (h : StoreFile.Keeps start w.files s.path others cell) {call : StoreCall}
    (hcall : ∀ c, call = .save c → c.Storable) :
    StoreFile.Keeps start (call.onWorld s w).files s.path others (call.onCell cell) := by
  cases call with
  | save c =>
    obtain ⟨after, hsave, hafter⟩ := h.save hstart (hcall c rfl)
    rw [StoreCall.onWorld, runOn_save, hsave]
    exact hafter
  | delete =>
    obtain ⟨after, removed, hremove, hafter⟩ := h.remove hstart
    rw [StoreCall.onWorld, runOn_delete, hremove]
    cases removed with
    | false => exact hafter
    | true => exact hafter
  | load => exact h

theorem keeps_foldl {start : FileTree} (hstart : StoreFile.Starts start s.path others)
    (calls : List StoreCall) (hcalls : ∀ c, .save c ∈ calls → c.Storable)
    (h : StoreFile.Keeps start w.files s.path others cell) :
    StoreFile.Keeps start (calls.foldl (StoreCall.onWorld s) w).files s.path others
      (calls.foldl StoreCall.onCell cell) := by
  induction calls generalizing w cell with
  | nil => exact h
  | cons call calls ih =>
    have hcall := keeps_onWorld hstart h fun c heq => hcalls c (heq ▸ List.mem_cons_self ..)
    exact ih (fun c hc => hcalls c (List.mem_cons_of_mem _ hc)) hcall

theorem loads_of_keeps {start : FileTree} (hstart : StoreFile.Starts start s.path others)
    (h : StoreFile.Keeps start w.files s.path others cell) : s.Loads cell (s.load.runOn w).1 := by
  rw [runOn_load]
  dsimp only
  cases cell with
  | some c =>
    obtain ⟨-, hnone⟩ | ⟨parent, hholds⟩ := h
    · cases hnone
    · obtain ⟨members, hread, -, -, hkey⟩ := hholds.read
      rw [Loads, hread]
      exact StoreFile.credential_of_get? (hholds.storable c rfl) hkey
  | none =>
    have hnone {members : Members} (hread : StoreFile.read w.files s.path = .ok members)
        (hkey : members.get? StoreFile.key = none) : s.Loads none
          ((StoreFile.read w.files s.path).bind (StoreFile.credential s.path)) := by
      rw [Loads, hread]
      refine ⟨none, ?_⟩
      show StoreFile.credential s.path members = _
      rw [StoreFile.credential, hkey]
      rfl
    obtain ⟨hfiles, -⟩ | ⟨parent, hholds⟩ := h
    · rcases hstart.content with ⟨hmissing, -⟩ | ⟨hread, hkey⟩
      · obtain ⟨cause, herror⟩ := StoreFile.read_eq_error hstart.fits.allowed hmissing
        rw [hfiles, herror]
        exact ⟨cause, rfl⟩
      · rw [← hfiles] at hread
        exact hnone hread hkey
    · obtain ⟨members, hread, -, -, hkey⟩ := hholds.read
      exact hnone hread hkey

/-- After every history of calls the store is a cell with the credential that was saved last, if it
was not deleted since, and the other members of the file are those of the beginning. -/
theorem refines_cell (h : StoreFile.Starts w.files s.path others) (calls : List StoreCall)
    (hcalls : ∀ c, .save c ∈ calls → c.Storable) :
    (∀ c : StoredCredential, c.Storable →
      ((s.save c).runOn (calls.foldl (StoreCall.onWorld s) w)).1 = .ok ()) ∧
    (s.delete.runOn (calls.foldl (StoreCall.onWorld s) w)).1 = .ok () ∧
    s.Loads (calls.foldl StoreCall.onCell none)
      (s.load.runOn (calls.foldl (StoreCall.onWorld s) w)).1 ∧
    StoreFile.HasOthers (calls.foldl (StoreCall.onWorld s) w).files s.path others := by
  have hkeeps := keeps_foldl h calls hcalls (.inl ⟨rfl, rfl⟩)
  refine ⟨fun c hc => ?_, ?_, loads_of_keeps h hkeeps, hkeeps.hasOthers h⟩
  · obtain ⟨after, hsave, -⟩ := hkeeps.save h hc
    rw [runOn_save, hsave]
  · obtain ⟨after, removed, hremove, -⟩ := hkeeps.remove h
    rw [runOn_delete, hremove]
    cases removed with
    | false => rfl
    | true => rfl

theorem starts_bare : StoreFile.Starts World.bare.files "creds.json" [] := by
  have hslash : Path.slash ∉ Text.ofString "creds.json" := by decide
  have hfits : StoreFile.Fits (Text.ofString "creds.json") :=
    StoreFile.fits_of_name hslash (by decide) (by decide) (by decide)
      (FileName.allowed_map_char (by decide)) (by decide)
  refine StoreFile.starts_empty hfits ?_
  rw [Path.directory, Path.split_of_not_mem hslash]

def fileWorld (mode : Nat) (content : Bytes) : World :=
  { World.bare with files := ⟨[(["creds.json"], .file mode content)]⟩ }

theorem walk_creds (tree : FileTree) : tree.walk (FileTree.start "creds.json")
    (Path.names (Path.directory "creds.json")) = .ok [] := by
  have hnames : Path.names (Path.directory "creds.json") = [] := by decide
  rw [hnames]
  rfl

theorem stat_fileWorld (mode : Nat) (content : Bytes) :
    (fileWorld mode content).files.stat "creds.json" = .ok (.file mode content) := by
  have hname : StoreFile.fileName "creds.json" = Text.ofString "creds.json" := by decide +kernel
  refine FileTree.stat_of_name (starts_bare.fits.spot (walk_creds _)) ?_
  rw [hname]
  rfl

theorem starts_fileWorld (mode : Nat) (hreadable : Json.Readable 0 (.object others))
    (hfree : ∀ p ∈ others, Json.FloatFree p.2) (hkey : others.get? StoreFile.key = none) :
    StoreFile.Starts (fileWorld mode (FileTree.jsonBytes (.object others))).files "creds.json"
      others := by
  have hfits : StoreFile.Fits "creds.json" := starts_bare.fits
  have hdirectory : Path.directory "creds.json" = [] := by decide
  have hfolder := StoreFile.isDirectory_folder
    (fileWorld mode (FileTree.jsonBytes (.object others))).files hdirectory
  have hstat := stat_fileWorld mode (FileTree.jsonBytes (.object others))
  have hstaged : StoreFile.stagedName "creds.json" = Text.ofString "creds.json.tmp" := by
    decide +kernel
  have hnone := FileTree.stat_of_none
    (hfits.spot_staging (walk_creds (fileWorld mode (FileTree.jsonBytes (.object others))).files))
    (by rw [hstaged]; rfl)
  refine ⟨hfits, ⟨_, FileTree.makeDirectories_of_isDirectory hfolder _, hfolder, ?_, ?_⟩,
    .inr ⟨?_, hkey⟩, hfree⟩
  · rw [FileTree.isDirectory, hstat]
  · rw [FileTree.isDirectory, hnone]
  · rw [StoreFile.read_of_jsonBytes hstat hreadable, Json.FloatFree.rereadMembers hfree]

def accountMembers : Members :=
  [("account", .string "me"), ("hosts", .array [.string "gcr.io", .null, .int 443])]

def accountWorld : World := fileWorld 0o640 (FileTree.jsonBytes (.object accountMembers))

theorem starts_accountWorld :
    StoreFile.Starts accountWorld.files "creds.json" accountMembers := by
  have hreadable : Json.Readable 0 (Json.ofMembers
      [("account", .string "me"), ("hosts", .array [.string "gcr.io", .null, .int 443])]) := by
    refine Json.readable_ofMembers (by decide) (by simp) fun p hp => ?_
    simp only [List.mem_cons, List.not_mem_nil, or_false] at hp
    rcases hp with rfl | rfl
    · exact .string (Json.joined_ofString _)
    · refine .array (by decide) fun v hv => ?_
      simp only [List.mem_cons, List.not_mem_nil, or_false] at hv
      rcases hv with rfl | rfl | rfl
      · exact .string (Json.joined_ofString _)
      · exact .null
      · exact .int (by rw [Json.Short]; decide)
  refine starts_fileWorld 0o640 hreadable (fun p hp => ?_) (by decide)
  simp only [accountMembers, List.mem_cons, List.not_mem_nil, or_false] at hp
  rcases hp with rfl | rfl
  · exact .string _
  · refine .array fun v hv => ?_
    simp only [List.mem_cons, List.not_mem_nil, or_false] at hv
    rcases hv with rfl | rfl | rfl
    · exact .string _
    · exact .null
    · exact .int _

def eastern : StoredCredential where
  accessToken := "ya29.\"é"
  refreshToken := "1//r"
  expiry := some ⟨⟨63850161600500000, by decide⟩, some 19800000000⟩
  clientId := "id"
  clientSecret := "secret"

def naive : StoredCredential :=
  { eastern with accessToken := "ya29.b", expiry := some ⟨⟨63850161600000000, by decide⟩, none⟩ }

theorem storable_eastern : eastern.Storable := by
  have htext (s : String) : Json.Joined (Text.ofString s) := Json.joined_ofString s
  refine ⟨htext _, htext _, htext _, htext _, htext _, ?_⟩
  rintro m ⟨⟩ o ⟨⟩
  exact ⟨by decide, by decide⟩

theorem storable_naive : naive.Storable := by
  refine { storable_eastern with accessToken := Json.joined_ofString _, expiry := ?_ }
  rintro m ⟨⟩ o ⟨⟩

def history : List StoreCall := [.save eastern, .load, .delete, .save naive, .save eastern, .load]

def forgotten : List StoreCall := history ++ [.delete]

theorem storable_of_mem_forgotten {c : StoredCredential} (h : .save c ∈ forgotten) :
    c.Storable := by
  simp only [forgotten, history, List.cons_append, List.nil_append, List.mem_cons,
    StoreCall.save.injEq, reduceCtorEq, List.not_mem_nil, or_false, false_or] at h
  rcases h with rfl | rfl | rfl
  · exact storable_eastern
  · exact storable_naive
  · exact storable_eastern

/-- Beside the members of others the last credential is loaded, and none after a deletion. -/
theorem refines_cell_accountWorld :
    StoreFile.Starts accountWorld.files "creds.json" accountMembers ∧
      (∀ c, .save c ∈ forgotten → c.Storable) ∧
      ((load ⟨"creds.json"⟩).runOn
        (history.foldl (StoreCall.onWorld ⟨"creds.json"⟩) accountWorld)).1 = .ok eastern ∧
      (∃ cause, ((load ⟨"creds.json"⟩).runOn
          (forgotten.foldl (StoreCall.onWorld ⟨"creds.json"⟩) accountWorld)).1 =
        .error (.helper (.root ⟨.storeRead, "no credential stored", StoreFile.loginFirst,
          StoreFile.about "creds.json"⟩ cause))) ∧
      StoreFile.HasOthers (forgotten.foldl (StoreCall.onWorld ⟨"creds.json"⟩) accountWorld).files
        "creds.json" accountMembers := by
  have hforgotten : ∀ c, .save c ∈ forgotten → c.Storable := fun _ => storable_of_mem_forgotten
  have hhistory : ∀ c, .save c ∈ history → c.Storable :=
    fun c hc => hforgotten c (List.mem_append_left _ hc)
  obtain ⟨-, -, hloads, -⟩ := refines_cell starts_accountWorld history hhistory
  obtain ⟨-, -, hnone, hothers⟩ := refines_cell starts_accountWorld forgotten hforgotten
  exact ⟨starts_accountWorld, hforgotten, hloads, hnone, hothers⟩

/-- A name that leaves no room for the suffix of the neighbouring file. -/
def longName : Text := List.replicate 252 (.char 'a')

theorem split_longName : Path.split longName = ([], longName) :=
  Path.split_of_not_mem fun h => absurd (List.eq_of_mem_replicate h) (by decide)

theorem endsInName_longName : Path.EndsInName longName := by
  have hlength : longName.length = 252 := List.length_replicate
  have hne {t : Text} (ht : t.length < 252) : (Path.split longName).2 ≠ t := by
    rw [split_longName]
    rintro rfl
    exact absurd hlength (Nat.ne_of_lt ht)
  exact ⟨hne (by decide), hne (by decide), hne (by decide)⟩

theorem size_longName : FileName.size longName = 252 := FileName.size_replicate 252 (.char 'a')

theorem size_staging_longName : FileName.size (StoreFile.stagingPath longName) = 256 := by
  rw [StoreFile.stagingPath]
  show FileName.size (longName ++ Text.ofString ".tmp") = 256
  rw [FileName.size_append, size_longName]
  decide

theorem usable_staging_longName : FileTree.Usable (StoreFile.stagingPath longName) := by
  have hchars : StoreFile.stagingPath longName =
      (List.replicate 252 'a' ++ ".tmp".toList).map Symbol.char := by
    rw [List.map_append, List.map_replicate]
    rfl
  have hnull : '\x00' ∉ List.replicate 252 'a' ++ ".tmp".toList := by
    rw [List.mem_append, List.mem_replicate]
    decide
  refine ⟨List.append_ne_nil_of_left_ne_nil endsInName_longName.ne_empty _, ?_, ?_⟩
  · rw [hchars]
    exact FileName.allowed_map_char hnull
  · rw [size_staging_longName]
    decide

/-- Nothing can be saved under a long name, even though a file of that name could be there. -/
theorem save_longName :
    Path.EndsInName longName ∧ FileTree.empty.isDirectory (StoreFile.folder longName) = true ∧
      FileTree.empty.stat longName = .error .notFound ∧
      FileTree.empty.isDirectory (StoreFile.stagingPath longName) = false ∧
      (save ⟨longName⟩ {} |>.runOn World.bare).1 = .error (.helper (.root
        ⟨.storeWrite, "unable to write credential store " ++ longName, [],
          StoreFile.about longName⟩
        (some (.system ⟨.nameTooLong, StoreFile.stagingPath longName, none⟩)))) := by
  have hdirectory : Path.directory longName = [] := by
    rw [Path.directory, split_longName]
  have husable : FileTree.Usable longName := FileTree.usable_of_front usable_staging_longName
    (List.prefix_append ..) endsInName_longName.ne_empty
  have hsize : FileName.size (Path.split longName).2 ≤ 255 := by
    rw [split_longName, size_longName]
    decide
  have hlong : 255 < FileName.size (Path.split (StoreFile.stagingPath longName)).2 := by
    rw [StoreFile.split_staging, split_longName]
    exact Nat.lt_of_lt_of_eq (by decide) size_staging_longName.symm
  have hfolder := StoreFile.isDirectory_folder FileTree.empty hdirectory
  have hfile := FileTree.stat_empty endsInName_longName husable hsize hdirectory
  have hspot :=
    StoreFile.spot_of_long_name usable_staging_longName hlong hfolder
  obtain ⟨cause, herror⟩ := StoreFile.read_eq_error husable.allowed hfile
  have hempty : StoreFile.readOrEmpty FileTree.empty longName = .ok [] := by
    rw [StoreFile.readOrEmpty_def, herror]
  refine ⟨endsInName_longName, hfolder, hfile, ?_, ?_⟩
  · rw [FileTree.isDirectory, FileTree.stat, hspot]
    rfl
  · rw [runOn_save]
    dsimp only [World.bare]
    rw [StoreFile.save_def, hempty]
    dsimp only
    rw [StoreFile.write_of_long_name _ hspot hfolder]

end CredentialStore

end CredentialHelper
