import CredentialHelper.Proofs.FileTree
import CredentialHelper.Proofs.JsonFile
import CredentialHelper.Proofs.Members
import CredentialHelper.Proofs.StoredForm
import CredentialHelper.Store.File

/-!
# The store file

`Ready` says where a store file can be written: its directory is there, and neither the file nor the
neighbouring one is a directory.  Writing then succeeds and leaves the store ready.  What a write
that succeeds leaves behind (`read_of_write`) holds for every tree, since success itself says enough
about where the paths lead.
-/

namespace CredentialHelper

namespace StoreFile

open FileName

/-- What the system takes as the path of a store file: it ends in a name, and neither it nor the
neighbouring path is too long. -/
structure Fits (path : Text) : Prop where
  endsInName : Path.EndsInName path
  allowed : ∀ s ∈ path, Allowed s
  size_path : size (stagingPath path) < 4096
  size_name : size (Path.split (stagingPath path)).2 ≤ 255

theorem split_staging (path : Text) :
    Path.split (stagingPath path) = ((Path.split path).1, (Path.split path).2 ++ ".tmp") :=
  Path.split_suffix path (by decide)

theorem directory_staging (path : Text) :
    Path.directory (stagingPath path) = Path.directory path := by
  rw [Path.directory, split_staging, Path.directory]

theorem endsInName_staging (path : Text) : Path.EndsInName (stagingPath path) := by
  have hlength : 4 ≤ ((Path.split path).2 ++ Text.ofString ".tmp").length := by
    rw [List.length_append]
    exact Nat.le_add_left 4 _
  have hne {t : Text} (ht : t.length < 4) : (Path.split (stagingPath path)).2 ≠ t := by
    intro heq
    rw [split_staging] at heq
    change (Path.split path).2 ++ Text.ofString ".tmp" = t at heq
    rw [heq] at hlength
    exact absurd ht (Nat.not_lt.2 hlength)
  exact ⟨hne (by decide), hne (by decide), hne (by decide)⟩

theorem start_staging (path : Text) : FileTree.start (stagingPath path) = FileTree.start path := by
  cases path with
  | nil => decide
  | cons s path => rfl

namespace Fits

variable {path : Text}

theorem usable_staging (h : Fits path) : FileTree.Usable (stagingPath path) where
  ne_nil := by
    rw [stagingPath]
    exact List.append_ne_nil_of_left_ne_nil h.endsInName.ne_empty _
  allowed := by
    intro s hs
    rcases List.mem_append.1 hs with hs | hs
    · exact h.allowed s hs
    · exact allowed_map_char (by decide) s hs
  size_lt := h.size_path

theorem usable (h : Fits path) : FileTree.Usable path :=
  FileTree.usable_of_front h.usable_staging (List.prefix_append path _) h.endsInName.ne_empty

end Fits

def fileName (path : Text) : Text := canonical (Path.split path).2

def stagedName (path : Text) : Text := canonical (Path.split (stagingPath path)).2

/-- The directory of the store file, which is the current one if the path is a single name. -/
def folder (path : Text) : Text :=
  if (Path.directory path).isEmpty then "." else Path.directory path

variable {tree tree' : FileTree} {path : Text} {parent : Place}

theorem stagedName_ne (h : Fits path) : stagedName path ≠ fileName path := by
  intro heq
  have hsize := congrArg size heq
  have hallowed := fun s hs => h.allowed s ((Path.lastName_suffix path).subset hs)
  have hstaged := fun s hs =>
    h.usable_staging.allowed s ((Path.lastName_suffix (stagingPath path)).subset hs)
  rw [stagedName, fileName, size_canonical hallowed, size_canonical hstaged, split_staging,
    size_append] at hsize
  have htmp : size (Text.ofString ".tmp") = 4 := by decide
  omega

theorem Fits.size_last (h : Fits path) : size (Path.split path).2 ≤ 255 := by
  have hsize := h.size_name
  rw [split_staging, size_append] at hsize
  omega

theorem Fits.spot (h : Fits path)
    (hwalk : tree.walk (FileTree.start path) (Path.names (Path.directory path)) = .ok parent) :
    tree.spot path = .ok (.name parent (fileName path) false) :=
  FileTree.spot_of_endsInName h.endsInName h.usable h.size_last hwalk

theorem Fits.spot_staging (h : Fits path)
    (hwalk : tree.walk (FileTree.start path) (Path.names (Path.directory path)) = .ok parent) :
    tree.spot (stagingPath path) = .ok (.name parent (stagedName path) false) := by
  refine FileTree.spot_of_endsInName (endsInName_staging path) h.usable_staging h.size_name ?_
  rw [start_staging, directory_staging]
  exact hwalk

/-- Where the neighbouring path leads, the directory of the store file is there. -/
theorem walk_of_spot_staging {spot : FileTree.Spot}
    (hspot : tree.spot (stagingPath path) = .ok spot) : ∃ parent,
      tree.walk (FileTree.start path) (Path.names (Path.directory path)) = .ok parent ∧
      spot = .name parent (stagedName path) false ∧
      size (Path.split (stagingPath path)).2 ≤ 255 := by
  have husable := FileTree.usable_of_spot hspot
  have hstaging := endsInName_staging path
  have hlast := hspot
  rw [FileTree.spot_concat tree husable hstaging.names] at hlast
  obtain ⟨parent, hwalk, -⟩ := FileTree.bind_eq_ok_iff.1 hlast
  rw [FileTree.spot_eq_ite hstaging husable hwalk] at hspot
  rw [directory_staging, start_staging] at hwalk
  split at hspot
  · cases hspot
  · next hsize =>
    cases hspot
    exact ⟨parent, hwalk, rfl, Nat.not_lt.1 hsize⟩

theorem fits_of_spot {spot : FileTree.Spot} (h : Path.EndsInName path)
    (hspot : tree.spot (stagingPath path) = .ok spot) : Fits path := by
  have husable := FileTree.usable_of_spot hspot
  obtain ⟨-, -, -, hsize⟩ := walk_of_spot_staging hspot
  exact ⟨h, fun s hs => husable.allowed s (List.mem_append_left _ hs), husable.size_lt, hsize⟩

theorem walk_folder (tree : FileTree) (path : Text) :
    tree.walk (FileTree.start (folder path)) (Path.names (folder path)) =
      tree.walk (FileTree.start path) (Path.names (Path.directory path)) := by
  rw [folder]
  by_cases hempty : Path.directory path = []
  · have hstart : FileTree.start path = [] := by
      refine if_neg fun hhead => ?_
      obtain ⟨rest, rfl⟩ := List.head?_eq_some_iff.1 hhead
      exact Path.not_mem_of_directory hempty (List.mem_cons_self ..)
    have hdot : canonical (Text.ofString ".") = Text.ofString "." :=
      canonical_map_char (by decide)
    rw [hempty, hstart]
    show tree.walk [] [Text.ofString "."] = tree.walk [] []
    rw [FileTree.walk_singleton, hdot]
    rfl
  · have hstart : FileTree.start (Path.directory path) = FileTree.start path :=
      FileTree.start_of_front (Path.split_spec path).1 hempty
    rw [if_neg fun h => hempty (List.isEmpty_iff.1 h), hstart]

theorem usable_folder (h : FileTree.Usable path) : FileTree.Usable (folder path) := by
  rw [folder]
  by_cases hempty : Path.directory path = []
  · rw [if_pos (List.isEmpty_iff.2 hempty)]
    exact FileTree.usable_dot
  · rw [if_neg fun h => hempty (List.isEmpty_iff.1 h)]
    exact FileTree.usable_of_front h (Path.split_spec path).1 hempty

/-- The directory of a store file that can be written, and what must not be in it. -/
structure Ready (tree : FileTree) (path : Text) (parent : Place) : Prop where
  fits : Fits path
  folder : tree.isDirectory (folder path) = true
  walk : tree.walk (FileTree.start path) (Path.names (Path.directory path)) = .ok parent
  file : ∀ mode, tree.get? (parent ++ [fileName path]) ≠ some (.directory mode)
  staged : ∀ mode, tree.get? (parent ++ [stagedName path]) ≠ some (.directory mode)

namespace Ready

theorem spot (h : Ready tree path parent) :
    tree.spot path = .ok (.name parent (fileName path) false) := h.fits.spot h.walk

theorem spot_staging (h : Ready tree path parent) :
    tree.spot (stagingPath path) = .ok (.name parent (stagedName path) false) :=
  h.fits.spot_staging h.walk

theorem ne (h : Ready tree path parent) :
    parent ++ [stagedName path] ≠ parent ++ [fileName path] := by
  intro heq
  exact stagedName_ne h.fits (List.singleton_inj.1 (List.append_cancel_left heq))

/-- Where only files change, and only these two, the store file can still be written. -/
theorem of_frame (h : Ready tree path parent)
    (hframe : ∀ place, place ≠ parent ++ [fileName path] → place ≠ parent ++ [stagedName path] →
      tree'.get? place = tree.get? place)
    (hfile : ∀ mode, tree'.get? (parent ++ [fileName path]) ≠ some (.directory mode))
    (hstaged : ∀ mode, tree'.get? (parent ++ [stagedName path]) ≠ some (.directory mode)) :
    Ready tree' path parent := by
  have hkeeps : FileTree.KeepsDirectories tree tree' := by
    intro place mode hentry
    rw [hframe place, hentry]
    · rintro rfl
      exact h.file mode hentry
    · rintro rfl
      exact h.staged mode hentry
  obtain ⟨husable, -⟩ := FileTree.walk_of_isDirectory h.folder
  have hparent (name : Text) : parent ≠ parent ++ [name] := fun heq => by
    have := congrArg List.length heq
    rw [List.length_append, List.length_singleton] at this
    omega
  exact ⟨h.fits, hkeeps.isDirectory husable ((walk_folder tree path).trans h.walk)
    (hframe parent (hparent _) (hparent _)) h.folder, hkeeps.walk h.walk, hfile, hstaged⟩

end Ready

/-! ## Writing -/

/-- The bits of the file that a content is written to: a neighbouring file that is there keeps its
own. -/
def stagedMode (tree : FileTree) (path : Text) (parent : Place) : Nat :=
  match tree.get? (parent ++ [stagedName path]) with
  | some (.file mode _) => mode
  | _ => FileTree.masked 0o600

def withStaged (tree : FileTree) (path : Text) (parent : Place) (content : Bytes) : FileTree :=
  tree.put (parent ++ [stagedName path]) (.file (stagedMode tree path parent) content)

def withContent (tree : FileTree) (path : Text) (parent : Place) (content : Bytes) : FileTree :=
  ((withStaged tree path parent content).erase (parent ++ [stagedName path])).put
    (parent ++ [fileName path]) (.file (stagedMode tree path parent) content)

theorem get?_withStaged (tree : FileTree) (path : Text) (parent place : Place) (content : Bytes) :
    (withStaged tree path parent content).get? place =
      if place = parent ++ [stagedName path] then
        some (.file (stagedMode tree path parent) content)
      else tree.get? place :=
  FileTree.get?_put_below tree (by simp) _ place

theorem get?_moved (tree : FileTree) (path : Text) (parent place : Place) (mode : Nat)
    (content : Bytes) :
    ((tree.erase (parent ++ [stagedName path])).put (parent ++ [fileName path])
        (.file mode content)).get? place =
      if place = parent ++ [fileName path] then some (.file mode content)
      else if place = parent ++ [stagedName path] then none
      else tree.get? place := by
  have hne (name : Text) : parent ++ [name] ≠ [] := by simp
  rw [FileTree.get?_put_below _ (hne _), FileTree.get?_erase_below _ (hne _)]

namespace Ready

theorem withStaged (h : Ready tree path parent) (content : Bytes) :
    Ready (withStaged tree path parent content) path parent := by
  refine h.of_frame (fun place _ hother => ?_) (fun mode hentry => ?_) fun mode hentry => ?_
  · rw [get?_withStaged, if_neg hother]
  · rw [get?_withStaged, if_neg h.ne.symm] at hentry
    exact h.file mode hentry
  · rw [get?_withStaged, if_pos rfl] at hentry
    cases hentry

theorem moved (h : Ready tree path parent) (mode : Nat) (content : Bytes) :
    Ready ((tree.erase (parent ++ [stagedName path])).put (parent ++ [fileName path])
      (.file mode content)) path parent := by
  refine h.of_frame (fun place hfile hother => ?_) (fun mode hentry => ?_) fun mode hentry => ?_
  · rw [get?_moved, if_neg hfile, if_neg hother]
  · rw [get?_moved, if_pos rfl] at hentry
    cases hentry
  · rw [get?_moved, if_neg h.ne, if_pos rfl] at hentry
    cases hentry

theorem withContent (h : Ready tree path parent) (content : Bytes) :
    Ready (withContent tree path parent content) path parent :=
  (h.withStaged content).moved _ content

theorem write_staging (h : Ready tree path parent) (content : Bytes) :
    tree.write (stagingPath path) 0o600 content =
      .ok (StoreFile.withStaged tree path parent content) := by
  rw [FileTree.write, h.spot_staging, StoreFile.withStaged, stagedMode]
  dsimp only
  rw [if_neg Bool.false_ne_true]
  split
  · next mode hentry => exact absurd hentry (h.staged mode)
  · next hentry => rw [hentry]
  · next hentry => rw [hentry]

theorem replace_of_entry (h : Ready tree path parent) {mode : Nat} {content : Bytes}
    (hentry : tree.get? (parent ++ [stagedName path]) = some (.file mode content)) :
    tree.replace (stagingPath path) path =
      .ok ((tree.erase (parent ++ [stagedName path])).put (parent ++ [fileName path])
        (.file mode content)) := by
  rw [FileTree.replace, h.spot_staging, h.spot]
  dsimp only
  rw [hentry]
  dsimp only
  rw [if_neg (by decide)]
  split
  · next mode hdirectory => exact absurd hdirectory (h.file mode)
  · rfl

theorem replace_of_none (h : Ready tree path parent)
    (hnone : tree.get? (parent ++ [stagedName path]) = none) :
    tree.replace (stagingPath path) path =
      .error ⟨.notFound, stagingPath path, some path⟩ := by
  rw [FileTree.replace, h.spot_staging, h.spot]
  dsimp only
  rw [hnone]

theorem replace_staging (h : Ready tree path parent) (content : Bytes) :
    (StoreFile.withStaged tree path parent content).replace (stagingPath path) path =
      .ok (StoreFile.withContent tree path parent content) :=
  (h.withStaged content).replace_of_entry ((get?_withStaged ..).trans (if_pos rfl))

end Ready

theorem spot_of_long_name (husable : FileTree.Usable (stagingPath path))
    (hlong : 255 < size (Path.split (stagingPath path)).2)
    (hfolder : tree.isDirectory (folder path) = true) :
    tree.spot (stagingPath path) = .error .nameTooLong := by
  obtain ⟨-, parent, hwalk⟩ := FileTree.walk_of_isDirectory hfolder
  rw [walk_folder, ← start_staging, ← directory_staging] at hwalk
  rw [FileTree.spot_eq_ite (endsInName_staging path) husable hwalk, if_pos hlong]

/-- Nothing can be written if the neighbouring file would have a name that is too long. -/
theorem write_of_long_name (members : Members)
    (hspot : tree.spot (stagingPath path) = .error .nameTooLong)
    (hfolder : tree.isDirectory (folder path) = true) :
    write tree path members = (tree, .error (.helper (.root
      ⟨.storeWrite, "unable to write credential store " ++ path, [], about path⟩
      (some (.system ⟨.nameTooLong, stagingPath path, none⟩))))) := by
  have hmade := FileTree.makeDirectories_of_isDirectory hfolder 0o700
  have hstage : stage tree path members =
      (tree, .error ⟨.nameTooLong, stagingPath path, none⟩) := by
    rw [folder] at hmade
    rw [stage_def]
    simp only [hmade, FileTree.write, hspot]
  rw [write_def, hstage]
  rfl

theorem stage_eq {made : FileTree} (members : Members)
    (hmade : tree.makeDirectories (folder path) 0o700 = (made, .ok ()))
    (h : Ready made path parent) :
    stage tree path members =
      (withStaged made path parent (FileTree.jsonBytes (.object members)), .ok ()) := by
  rw [folder] at hmade
  rw [stage_def]
  simp only [hmade, h.write_staging]

/-- Where the file can be written once its directory is made, it is written. -/
theorem write_eq {made : FileTree} (members : Members)
    (hmade : tree.makeDirectories (folder path) 0o700 = (made, .ok ()))
    (h : Ready made path parent) :
    write tree path members =
      (withContent made path parent (FileTree.jsonBytes (.object members)), .ok ()) := by
  rw [write_def, stage_eq members hmade h]
  dsimp only
  rw [commit_def, h.replace_staging]

theorem Ready.makeDirectories (h : Ready tree path parent) :
    tree.makeDirectories (StoreFile.folder path) 0o700 = (tree, .ok ()) :=
  FileTree.makeDirectories_of_isDirectory h.folder _

/-! ## How a write ends -/

/-- What a write of a content comes to, by the step that it fails at. -/
inductive Ends (tree : FileTree) (path : Text) (content : Bytes) :
    FileTree × Except Failure Unit → Prop
  /-- The directory cannot be made. -/
  | unmade {made : FileTree} {e : SystemError}
      (hmade : tree.makeDirectories (folder path) 0o700 = (made, .error e)) :
      Ends tree path content (made, .error (refusal path e))
  /-- The content cannot be written beside the file. -/
  | unstaged {made : FileTree} {e : SystemError}
      (hmade : tree.makeDirectories (folder path) 0o700 = (made, .ok ()))
      (hwrite : made.write (stagingPath path) 0o600 content = .error e) :
      Ends tree path content (made, .error (refusal path e))
  /-- The content cannot take the place of the file. -/
  | unmoved {made staged : FileTree} {e : SystemError}
      (hmade : tree.makeDirectories (folder path) 0o700 = (made, .ok ()))
      (hwrite : made.write (stagingPath path) 0o600 content = .ok staged)
      (hreplace : staged.replace (stagingPath path) path = .error e) :
      Ends tree path content (staged, .error (refusal path e))
  | done {made staged written : FileTree}
      (hmade : tree.makeDirectories (folder path) 0o700 = (made, .ok ()))
      (hwrite : made.write (stagingPath path) 0o600 content = .ok staged)
      (hreplace : staged.replace (stagingPath path) path = .ok written) :
      Ends tree path content (written, .ok ())

theorem ends_write (tree : FileTree) (path : Text) (members : Members) :
    Ends tree path (FileTree.jsonBytes (.object members)) (write tree path members) := by
  rw [write_def, stage_def]
  rcases hmade : tree.makeDirectories (folder path) 0o700 with ⟨made, e | _⟩
  · rw [folder] at hmade
    rw [hmade]
    exact .unmade hmade
  · have hmade' := hmade
    rw [folder] at hmade'
    rw [hmade']
    dsimp only
    cases hwrite : made.write (stagingPath path) 0o600 (FileTree.jsonBytes (.object members)) with
    | error e => exact .unstaged hmade hwrite
    | ok staged =>
      dsimp only
      rw [commit_def]
      cases hreplace : staged.replace (stagingPath path) path with
      | error e => exact .unmoved hmade hwrite hreplace
      | ok written => exact .done hmade hwrite hreplace

/-- A save is a write, unless a failure passes through reading the file. -/
theorem save_cases (tree : FileTree) (path : Text) (c : StoredCredential) :
    (∃ cause, read tree path = .error (.foreign cause) ∧
      save tree path c = (tree, .error (.foreign cause))) ∨
    (∀ cause, read tree path ≠ .error (.foreign cause)) ∧
      ∃ members, save tree path c = write tree path members := by
  rw [save_def, readOrEmpty_def]
  rcases read tree path with (e | cause) | members
  · exact .inr ⟨nofun, _, rfl⟩
  · exact .inl ⟨cause, rfl, rfl⟩
  · exact .inr ⟨nofun, _, rfl⟩

/-- A deletion changes nothing or is a write over a file that could be read, unless a failure passes
through reading it. -/
theorem remove_cases (tree : FileTree) (path : Text) :
    (∃ cause, read tree path = .error (.foreign cause) ∧
      remove tree path = (tree, .error (.foreign cause))) ∨
    (∀ cause, read tree path ≠ .error (.foreign cause)) ∧
      (remove tree path = (tree, .ok false) ∨
        ∃ members rest, read tree path = .ok members ∧
          remove tree path =
            ((write tree path rest).1, (write tree path rest).2.map fun _ => true)) := by
  rw [remove_def]
  rcases read tree path with (e | cause) | members
  · exact .inr ⟨nofun, .inl rfl⟩
  · exact .inl ⟨cause, rfl, rfl⟩
  · refine .inr ⟨nofun, ?_⟩
    dsimp only
    split
    · exact .inl rfl
    · exact .inl rfl
    · refine .inr ⟨members, members.erase key, rfl, ?_⟩
      rcases write tree path (members.erase key) with ⟨tree', f | _⟩
      · rfl
      · rfl

/-- A content that was written beside the file takes its place unless a directory is there. -/
theorem exists_directory_of_unmoved {staged : FileTree} {content : Bytes} {e : SystemError}
    (h : Path.EndsInName path) (hwrite : tree.write (stagingPath path) 0o600 content = .ok staged)
    (hreplace : staged.replace (stagingPath path) path = .error e) :
    ∃ mode, tree.stat path = .ok (.directory mode) ∧ staged.stat path = .ok (.directory mode) := by
  have hkeeps := FileTree.keepsDirectories_write hwrite
  obtain ⟨parent, _, mode', hspot, -, rfl⟩ := FileTree.write_eq_ok hwrite
  have hfits := fits_of_spot h hspot
  obtain ⟨_, hwalk, hstaged, -⟩ := walk_of_spot_staging hspot
  cases hstaged
  have hne : parent ++ [fileName path] ≠ parent ++ [stagedName path] := fun heq =>
    stagedName_ne hfits (List.singleton_inj.1 (List.append_cancel_left heq)).symm
  have htarget := hkeeps.spot (hfits.spot hwalk)
  obtain ⟨mode, hdirectory⟩ := FileTree.directory_of_replace (hkeeps.spot hspot)
    ((FileTree.get?_put_below tree (by simp) _ _).trans (if_pos rfl)) htarget hreplace
  have hbefore := hdirectory
  rw [FileTree.get?_put_below tree (by simp), if_neg hne] at hbefore
  exact ⟨mode, FileTree.stat_of_directory (hfits.spot hwalk) hbefore,
    FileTree.stat_of_directory htarget hdirectory⟩

/-! ## Reading what was written -/

theorem stat_of_write {members : Members} (h : write tree path members = (tree', .ok ())) :
    ∃ mode, tree'.stat path = .ok (.file mode (FileTree.jsonBytes (.object members))) := by
  have hends := ends_write tree path members
  rw [h] at hends
  cases hends with
  | done _ hwrite hreplace =>
    obtain ⟨parent, last, mode, hspot, hentry⟩ := FileTree.entry_of_write hwrite
    exact ⟨mode, FileTree.stat_of_replace hreplace hspot hentry⟩

/-- An object that was written as it stands is read back, up to its floating-point numbers. -/
theorem read_of_jsonBytes {mode : Nat} {members : Members}
    (hstat : tree.stat path = .ok (.file mode (FileTree.jsonBytes (.object members))))
    (hreadable : Json.Readable 0 (.object members)) :
    read tree path = .ok (Json.rereadMembers members) := by
  have hname := encode_eq_ok (FileTree.usable_of_stat hstat).allowed
  have hread := FileTree.readJson_jsonBytes hname (FileTree.read_of_stat hstat) hreadable
  rw [read_def, hread, Json.reread]

theorem read_of_write {members : Members} (h : write tree path members = (tree', .ok ()))
    (hreadable : Json.Readable 0 (.object members)) :
    read tree' path = .ok (Json.rereadMembers members) := by
  obtain ⟨mode, hstat⟩ := stat_of_write h
  exact read_of_jsonBytes hstat hreadable

theorem readJson_of_read {members : Members} (h : read tree path = .ok members) :
    tree.readJson path = .ok (.object members) := by
  rw [read_def] at h
  split at h
  · split at h <;> cases h
  · next hjson =>
    cases h
    exact hjson
  · cases h

theorem readable_of_read {members : Members} (h : read tree path = .ok members) :
    Json.Readable 0 (.object members) :=
  FileTree.readable_of_readJson (readJson_of_read h)

theorem readable_of_readOrEmpty {members : Members} (h : readOrEmpty tree path = .ok members) :
    Json.Readable 0 (.object members) := by
  rw [readOrEmpty_def] at h
  split at h
  · next hread =>
    cases h
    exact readable_of_read hread
  · cases h
    exact Json.readable_nil
  · cases h

/-! ## The credential in the file -/

theorem readable_insert {members : Members} (h : Json.Readable 0 (.object members))
    {c : StoredCredential} (hc : c.Storable) :
    Json.Readable 0 (.object (members.insert key c.toJson)) :=
  h.insert (Json.joined_ofString _) (StoredCredential.readable_toJson hc (by decide))

theorem get?_reread_insert (members : Members) (c : StoredCredential) :
    Members.get? key (Json.rereadMembers (members.insert key c.toJson)) = some c.toJson := by
  rw [Json.get?_rereadMembers, Members.get?_insert, if_pos rfl, Option.map_some,
    (StoredCredential.floatFree_toJson c).reread]

theorem credential_of_get? {members : Members} {c : StoredCredential} (hc : c.Storable)
    (h : members.get? key = some c.toJson) : credential path members = .ok c := by
  rw [credential, h]
  simp only [StoredCredential.ofJson_toJson hc]

/-- A credential that was saved is read back. -/
theorem credential_of_save {c : StoredCredential} (hc : c.Storable)
    (h : save tree path c = (tree', .ok ())) :
    (read tree' path).bind (credential path) = .ok c := by
  rw [save_def] at h
  split at h
  · cases h
  · next members hmembers =>
    have hreadable := readable_insert (readable_of_readOrEmpty hmembers) hc
    rw [read_of_write h hreadable]
    exact credential_of_get? hc (get?_reread_insert members c)

end StoreFile

end CredentialHelper
