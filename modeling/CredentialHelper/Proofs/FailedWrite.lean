import CredentialHelper.Proofs.FileChanges
import CredentialHelper.Proofs.StoreCell

/-!
# What a failed write leaves behind

A write that fails has made directories, and it has perhaps put a front part of the content beside
the file, all of it if the last step failed.  Nothing is taken back, and nothing else is different,
whatever goes wrong besides (`Leaves`).  Where a write fails only by what stands in the tree, the
content stays only beside a directory that stands at the path (`remains_unfaulted`).  Over a file it
then fails before it has done anything, so that a failed save or deletion leaves the file as it was.
-/

namespace CredentialHelper

open FileTree

namespace StoreFile

variable {faults : Faults} {limits : Limits} {tree made tree' : FileTree} {path : Text}
  {content : Bytes} {members : Members} {f : Failure}

/-- Why what was put beside the file stays there. -/
inductive Remains (faults : Faults) (tree' : FileTree) (path : Text) (content front : Bytes) : Prop
  /-- The content broke off. -/
  | broken {size : Nat} {cause : Cause} (h : faults.breaking = some (size, cause))
      (hfront : front = content.take size)
  /-- The process cannot move it. -/
  | held {errno : Errno} (h : faults.move path = some errno) (hfront : front = content)
  /-- A directory stands at the path, if that ends in a name at all. -/
  | blocked (hfront : front = content) (h : Path.EndsInName path → tree'.isDirectory path = true)

theorem remains_unfaulted {front : Bytes} : Remains {} tree' path content front ↔
    front = content ∧ (Path.EndsInName path → tree'.isDirectory path = true) := by
  constructor
  · rintro (⟨⟨⟩, -⟩ | ⟨⟨⟩, -⟩ | ⟨hfront, h⟩)
    exact ⟨hfront, h⟩
  · exact fun ⟨hfront, h⟩ => .blocked hfront h

/-- What a place can look like after a write of a content that failed. -/
inductive Leaves (faults : Faults) (tree tree' : FileTree) (path : Text) (content : Bytes)
    (place : Place) : Prop
  | same (h : tree'.get? place = tree.get? place)
  /-- A directory was made, on the way to the store file if that does not lead up. -/
  | directory {mode : Nat} (hnone : tree.get? place = none)
      (h : tree'.get? place = some (.directory mode))
      (hway : Path.Straight path → place <+: placeOf path)
  /-- A front part of the content stays in the neighbouring file, which is new or keeps its bits. -/
  | staged {parent : Place} {last : Text} {mode : Nat} {front : Bytes}
      (hspot : tree'.spot (stagingPath path) = .ok (.name parent last false))
      (hplace : place = parent ++ [last]) (h : tree'.get? place = some (.file mode front))
      (hmode : tree.get? place = none ∧ mode = 0o600 ∨
        ∃ old, tree.get? place = some (.file mode old))
      (hwhy : Remains faults tree' path content front)

/-! ## Where a write can fail -/

theorem stageWithin_eq_error {e : SystemError}
    (h : stageWithin limits tree path content = (tree', .error e)) :
    ∃ r, tree.makeDirectoriesWithin limits (folder path) 0o700 = (tree', r) := by
  rw [stageWithin] at h
  split at h
  · next hmade =>
    cases h
    exact ⟨_, hmade⟩
  · next hmade =>
    split at h <;> cases h
    exact ⟨_, hmade⟩

theorem stageWithin_eq_ok (h : stageWithin limits tree path content = (tree', .ok ())) :
    ∃ made, tree.makeDirectoriesWithin limits (folder path) 0o700 = (made, .ok ()) ∧
      made.write (stagingPath path) 0o600 content = .ok tree' := by
  rw [stageWithin] at h
  split at h
  · cases h
  · next made hmade =>
    split at h
    · cases h
    · next staged hwrite =>
      cases h
      rw [writeWithin] at hwrite
      split at hwrite
      · cases hwrite
      · exact ⟨made, hmade, hwrite⟩

/-- A content that was put beside the file stays there where it cannot be moved. -/
theorem remains_of_commit {e : SystemError}
    (hwrite : made.write (stagingPath path) 0o600 content = .ok tree')
    (h : (commitWithin faults.toLimits tree' path).2 = .error e) :
    Remains faults tree' path content content := by
  rw [commitWithin, replaceWithin] at h
  cases hmove : faults.move path with
  | some errno => exact .held hmove rfl
  | none =>
    rw [hmove] at h
    refine .blocked rfl fun hname => ?_
    cases hreplace : tree'.replace (stagingPath path) path with
    | ok after =>
      rw [hreplace] at h
      cases h
    | error e =>
      obtain ⟨mode, -, hstat⟩ := exists_directory_of_unmoved hname hwrite hreplace
      rw [isDirectory, hstat]

inductive Fails (faults : Faults) (tree : FileTree) (path : Text) (content : Bytes) :
    FileTree → Prop
  /-- Nothing could be put beside the file. -/
  | unstaged {made : FileTree} {r : Except SystemError Unit}
      (hmade : tree.makeDirectoriesWithin faults.toLimits (folder path) 0o700 = (made, r)) :
      Fails faults tree path content made
  /-- What was put beside the file stays there. -/
  | unmoved {made staged : FileTree} {front : Bytes}
      (hmade : tree.makeDirectoriesWithin faults.toLimits (folder path) 0o700 = (made, .ok ()))
      (hwrite : made.write (stagingPath path) 0o600 front = .ok staged)
      (hwhy : Remains faults staged path content front) :
      Fails faults tree path content staged

theorem fails_of_write (h : writeUnder faults tree path members = (tree', .error f)) :
    Fails faults tree path (jsonBytes (.object members)) tree' := by
  rw [writeUnder] at h
  dsimp only at h
  split at h
  · next hstage =>
    cases h
    obtain ⟨r, hmade⟩ := stageWithin_eq_error hstage
    exact .unstaged hmade
  · next staged hstage =>
    obtain ⟨made, hmade, hwrite⟩ := stageWithin_eq_ok hstage
    cases hbreaking : faults.breaking with
    | some broken =>
      rw [hbreaking] at h hwrite
      cases h
      exact .unmoved hmade hwrite (.broken hbreaking rfl)
    | none =>
      rw [hbreaking] at h hwrite
      dsimp only at h
      split at h
      · next hcommit =>
        cases h
        have hkept : tree' = staged := by
          rw [commitWithin] at hcommit
          split at hcommit <;> cases hcommit
          rfl
        subst hkept
        exact .unmoved hmade hwrite (remains_of_commit hwrite (congrArg Prod.snd hcommit))
      · cases h

/-! ## What it leaves -/

theorem get?_makeDirectories (limits : Limits) (tree : FileTree) (path : Text) (place : Place) :
    (tree.makeDirectoriesWithin limits (folder path) 0o700).1.get? place = tree.get? place ∨
      tree.get? place = none ∧ (Path.Straight path → place <+: placeOf path) ∧
        ∃ mode, (tree.makeDirectoriesWithin limits (folder path) 0o700).1.get? place =
          some (.directory mode) := by
  have hopens := opens_makeDirectoriesFrom limits tree (folder path) 0o700
    ((folder path).length + 1)
  rcases hopens place with heq | ⟨hnone, mode, hmade⟩
  · exact .inl heq
  · refine .inr ⟨hnone, fun hstraight => ?_, mode, hmade⟩
    rcases opensWay_makeDirectoriesFrom limits tree (straight_folder hstraight) 0o700
      ((folder path).length + 1) place with heq | ⟨hway, -⟩
    · rw [heq, hnone] at hmade
      cases hmade
    · exact hway.trans (placeOf_folder path)

/-- Where a content was staged in vain, it is all that differs besides new directories. -/
theorem leaves_of_staged {staged : FileTree} {front : Bytes}
    (hmade : tree.makeDirectoriesWithin faults.toLimits (folder path) 0o700 = (made, .ok ()))
    (hwrite : made.write (stagingPath path) 0o600 front = .ok staged)
    (hwhy : Remains faults staged path content front) (place : Place) :
    Leaves faults tree staged path content place := by
  have hbefore := get?_makeDirectories faults.toLimits tree path place
  rw [hmade] at hbefore
  have hkeeps := keepsDirectories_write hwrite
  obtain ⟨parent, last, mode, hspot, hold, rfl⟩ := write_eq_ok hwrite
  have hput := get?_put_below made (append_ne_nil parent last) (.file mode front) place
  by_cases hplace : place = parent ++ [last]
  · rw [if_pos hplace] at hput
    rw [← hplace] at hold
    refine .staged (hkeeps.spot hspot) hplace hput ?_ hwhy
    rcases hbefore with heq | ⟨-, -, mode', hdirectory⟩
    · rw [heq] at hold
      exact hold
    · rw [hdirectory] at hold
      rcases hold with ⟨hnone, -⟩ | ⟨old, hfile⟩
      · cases hnone
      · cases hfile
  · rw [if_neg hplace] at hput
    rcases hbefore with heq | ⟨hnone, hway, mode', hdirectory⟩
    · exact .same (hput.trans heq)
    · exact .directory hnone (hput.trans hdirectory) hway

theorem leaves_of_write (h : writeUnder faults tree path members = (tree', .error f))
    (place : Place) : Leaves faults tree tree' path (jsonBytes (.object members)) place := by
  cases fails_of_write h with
  | unstaged hmade =>
    have hplace := get?_makeDirectories faults.toLimits tree path place
    rw [hmade] at hplace
    rcases hplace with heq | ⟨hnone, hway, mode, hdirectory⟩
    · exact .same heq
    · exact .directory hnone hdirectory hway
  | unmoved hmade hwrite hwhy => exact leaves_of_staged hmade hwrite hwhy place

/-- A write over a file fails before it has done anything, unless the content breaks off or cannot
be moved. -/
theorem eq_of_write {mode : Nat} {old : Bytes} (hbreaking : faults.breaking = none)
    (hmove : faults.move path = none) (hname : Path.EndsInName path)
    (hstat : tree.stat path = .ok (.file mode old))
    (h : writeUnder faults tree path members = (tree', .error f)) : tree' = tree := by
  have hkept := makeDirectories_of_stat faults.toLimits hname hstat
  cases fails_of_write h with
  | unstaged hmade =>
    rw [hmade] at hkept
    exact hkept
  | unmoved hmade hwrite hwhy =>
    rw [hmade] at hkept
    cases hkept
    cases hwhy with
    | broken hbroken _ => cases hbreaking.symm.trans hbroken
    | held hheld _ => cases hmove.symm.trans hheld
    | blocked _ hdirectory =>
      have hfile := isDirectory_of_write hwrite hstat
      cases hfile.symm.trans (hdirectory hname)

/-- Where a directory stands at the path and nothing beside it, the content stays beside it. -/
theorem write_over_directory {parent : Place} {mode : Nat} (hfits : Fits path)
    (hfolder : tree.isDirectory (folder path) = true)
    (hwalk : tree.walk (start path) (Path.names (Path.directory path)) = .ok parent)
    (hdirectory : tree.get? (parent ++ [fileName path]) = some (.directory mode))
    (hnone : tree.get? (parent ++ [stagedName path]) = none) (members : Members) :
    ∃ e, write tree path members = (tree.put (parent ++ [stagedName path])
      (.file 0o600 (jsonBytes (.object members))), .error (refusal path e)) := by
  have hkept := makeDirectories_of_isDirectory hfolder 0o700
  have hspot := hfits.spot_staging hwalk
  have hstaged : tree.write (stagingPath path) 0o600 (jsonBytes (.object members)) =
      .ok (tree.put (parent ++ [stagedName path])
        (.file 0o600 (jsonBytes (.object members)))) := by
    rw [FileTree.write, hspot]
    dsimp only
    rw [if_neg Bool.false_ne_true, hnone]
    rfl
  have hends := ends_write tree path members
  generalize write tree path members = result at hends
  cases hends with
  | unmade hmade => cases hkept.symm.trans hmade
  | unstaged hmade hwrite =>
    cases hkept.symm.trans hmade
    cases hstaged.symm.trans hwrite
  | @unmoved _ _ e hmade hwrite hreplace =>
    cases hkept.symm.trans hmade
    cases hstaged.symm.trans hwrite
    exact ⟨e, rfl⟩
  | done hmade hwrite hreplace =>
    cases hkept.symm.trans hmade
    have hkeeps := keepsDirectories_write hwrite
    obtain ⟨_, _, _, _, _, _, -, -, htarget, hnot, -⟩ := replace_eq_ok hreplace
    cases htarget.symm.trans (hkeeps.spot (hfits.spot hwalk))
    exact absurd (hkeeps _ _ hdirectory) (hnot mode)

theorem readOrEmpty_of_directory {mode : Nat} (h : tree.stat path = .ok (.directory mode)) :
    readOrEmpty tree path = .ok [] := by
  have hname := FileName.encode_eq_ok (usable_of_stat h).allowed
  rw [readOrEmpty_def, read_def, readJson, readText, hname, FileTree.read, h]
  rfl

theorem save_over_directory {parent : Place} {mode : Nat} (hfits : Fits path)
    (hfolder : tree.isDirectory (folder path) = true)
    (hwalk : tree.walk (start path) (Path.names (Path.directory path)) = .ok parent)
    (hdirectory : tree.get? (parent ++ [fileName path]) = some (.directory mode))
    (hnone : tree.get? (parent ++ [stagedName path]) = none) (c : StoredCredential) :
    ∃ e, save tree path c = (tree.put (parent ++ [stagedName path])
      (.file 0o600 (jsonBytes (.object [(key, c.toJson)]))), .error (refusal path e)) := by
  obtain ⟨e, hwrite⟩ := write_over_directory hfits hfolder hwalk hdirectory hnone [(key, c.toJson)]
  refine ⟨e, ?_⟩
  rw [save_def, readOrEmpty_of_directory (stat_of_directory (hfits.spot hwalk) hdirectory)]
  exact hwrite

/-- A save that fails did so before it changed anything, or in writing. -/
theorem saveUnder_eq_error {c : StoredCredential}
    (h : saveUnder faults tree path c = (tree', .error f)) :
    tree' = tree ∨ ∃ members : Members,
      writeUnder faults tree path (members.insert key c.toJson) = (tree', .error f) := by
  rw [saveUnder] at h
  split at h
  · cases h
    exact .inl rfl
  · exact .inr ⟨_, h⟩

theorem read_of_readUnder (h : readUnder faults tree path = .ok members) :
    read tree path = .ok members := by
  cases hreading : faults.reading with
  | none =>
    rw [readUnder, hreading] at h
    exact h
  | some cause =>
    rw [readUnder, hreading] at h
    dsimp only [Option.elim] at h
    split at h <;> cases h

/-- A deletion that fails did so before it changed anything, or where it wrote the rest. -/
theorem removeUnder_eq_error (h : removeUnder faults tree path = (tree', .error f)) :
    tree' = tree ∨ ∃ members, read tree path = .ok members ∧
      writeUnder faults tree path (members.erase key) = (tree', .error f) := by
  rw [removeUnder] at h
  split at h
  · cases h
  · cases h
    exact .inl rfl
  · next members hread =>
    split at h
    · cases h
    · cases h
    · split at h
      · next hwrite =>
        cases h
        exact .inr ⟨members, read_of_readUnder hread, hwrite⟩
      · cases h

theorem leaves_of_save {c : StoredCredential}
    (h : saveUnder faults tree path c = (tree', .error f)) :
    ∃ members : Members, ∀ place,
      Leaves faults tree tree' path (jsonBytes (.object (members.insert key c.toJson))) place := by
  rcases saveUnder_eq_error h with rfl | ⟨members, hwrite⟩
  · exact ⟨[], fun place => .same rfl⟩
  · exact ⟨members, leaves_of_write hwrite⟩

theorem leaves_of_remove (h : removeUnder faults tree path = (tree', .error f)) :
    ∃ members : Members, ∀ place,
      Leaves faults tree tree' path (jsonBytes (.object (members.erase key))) place := by
  rcases removeUnder_eq_error h with rfl | ⟨members, -, hwrite⟩
  · exact ⟨[], fun place => .same rfl⟩
  · exact ⟨members, leaves_of_write hwrite⟩

theorem eq_of_save {c : StoredCredential} {mode : Nat} {old : Bytes}
    (hbreaking : faults.breaking = none) (hmove : faults.move path = none)
    (hname : Path.EndsInName path) (hstat : tree.stat path = .ok (.file mode old))
    (h : saveUnder faults tree path c = (tree', .error f)) : tree' = tree := by
  rcases saveUnder_eq_error h with heq | ⟨members, hwrite⟩
  · exact heq
  · exact eq_of_write hbreaking hmove hname hstat hwrite

theorem eq_of_remove (hbreaking : faults.breaking = none) (hmove : faults.move path = none)
    (hname : Path.EndsInName path) (h : removeUnder faults tree path = (tree', .error f)) :
    tree' = tree := by
  rcases removeUnder_eq_error h with heq | ⟨members, hread, hwrite⟩
  · exact heq
  · obtain ⟨mode, old, hstat⟩ := exists_stat_of_read hread
    exact eq_of_write hbreaking hmove hname hstat hwrite

end StoreFile

namespace CredentialStore

open StoreFile

/-- A save that failed has removed nothing and changed nothing but perhaps the neighbouring file,
and nothing at all where a file stands at the path.  So has a deletion, which fails only there.  If
more goes wrong than the tree says, the same holds, but the neighbouring file can then hold a front
part of the new content where the content broke off or could not be moved. -/
theorem failure_leaves (s : CredentialStore) (w : World) :
    (∀ c f t, (s.save c).runOn w = (.error f, t) →
      t = { w with files := t.files } ∧
      (∃ members : Members, ∀ place, Leaves {} w.files t.files s.path
        (jsonBytes (.object (members.insert key c.toJson))) place) ∧
      (Path.EndsInName s.path → w.files.isFile s.path = true → t = w)) ∧
    (∀ f t, s.delete.runOn w = (.error f, t) →
      t = { w with files := t.files } ∧
      (∃ members : Members, ∀ place, Leaves {} w.files t.files s.path
        (jsonBytes (.object (members.erase key))) place) ∧
      (Path.EndsInName s.path → t = w)) ∧
    ∀ faults : Faults,
      (∀ c f tree', saveUnder faults w.files s.path c = (tree', .error f) →
        (∃ members : Members, ∀ place, Leaves faults w.files tree' s.path
          (jsonBytes (.object (members.insert key c.toJson))) place) ∧
        (faults.breaking = none → faults.move s.path = none → Path.EndsInName s.path →
          w.files.isFile s.path = true → tree' = w.files)) ∧
      ∀ f tree', removeUnder faults w.files s.path = (tree', .error f) →
        (∃ members : Members, ∀ place, Leaves faults w.files tree' s.path
          (jsonBytes (.object (members.erase key))) place) ∧
        (faults.breaking = none → faults.move s.path = none → Path.EndsInName s.path →
          tree' = w.files) := by
  have hsaves (faults : Faults) (c : StoredCredential) {f : Failure} {tree' : FileTree}
      (h : saveUnder faults w.files s.path c = (tree', .error f))
      (hbreaking : faults.breaking = none) (hmove : faults.move s.path = none)
      (hname : Path.EndsInName s.path) (hfile : w.files.isFile s.path = true) :
      tree' = w.files := by
    rw [isFile] at hfile
    split at hfile
    · next mode old hstat => exact eq_of_save hbreaking hmove hname hstat h
    · cases hfile
  refine ⟨fun c f t h => ?_, fun f t h => ?_, fun faults => ⟨fun c f tree' h => ?_,
    fun f tree' h => ?_⟩⟩
  · obtain ⟨tree, hsave, rfl⟩ := save_eq_error h
    refine ⟨rfl, leaves_of_save hsave, fun hname hfile => ?_⟩
    rw [hsaves {} c hsave rfl rfl hname hfile]
  · obtain ⟨tree, hremove, rfl⟩ := delete_eq_error h
    refine ⟨rfl, leaves_of_remove hremove, fun hname => ?_⟩
    rw [eq_of_remove rfl rfl hname hremove]
  · exact ⟨leaves_of_save h, hsaves faults c h⟩
  · exact ⟨leaves_of_remove h, fun hbreaking hmove hname => eq_of_remove hbreaking hmove hname h⟩

/-- A world with a credential, where a directory stands in the way of another one. -/
def blockedWorld : World :=
  { World.bare with files := ⟨[
      (["creds.json"], .file 0o640 (jsonBytes (.object [(key, .object [])]))),
      (["creds.json.tmp"], .directory 0o755)]⟩ }

def writableWorld : World := fileWorld 0o640 (jsonBytes (.object [(key, .object [])]))

/-- A disk on which there is room for five bytes. -/
def fullDisk : Faults :=
  { breaking := some (5, .system ⟨.other 28 "No space left on device", "creds.json.tmp", none⟩) }

def leftWorld : World :=
  { World.bare with files := ⟨[
      (["creds.json"], .file 0o640 (jsonBytes (.object [(key, .object [])]))),
      (["creds.json.tmp"], .file 0o644 [])]⟩ }

/-- A directory in which the process may not move anything. -/
def lockedDirectory : Faults := { move := fun _ => some .denied }

/-- Saving and deleting fail where the neighbouring path is a directory, and change nothing. On a
full disk five bytes stay beside the old content, and in a locked directory all of the new one. -/
theorem failure_leaves_blockedWorld :
    (∃ f, (save ⟨"creds.json"⟩ {}).runOn blockedWorld = (.error f, blockedWorld)) ∧
      (∃ f, (delete ⟨"creds.json"⟩).runOn blockedWorld = (.error f, blockedWorld)) ∧
      (∃ e tree', saveUnder fullDisk writableWorld.files "creds.json" {} =
          (tree', .error (.helper e)) ∧ e.kind = .storeWrite ∧
        (∃ members : Members, ∀ place, Leaves fullDisk writableWorld.files tree' "creds.json"
          (jsonBytes (.object (members.insert key (StoredCredential.toJson {})))) place) ∧
        tree'.get? ["creds.json"] = writableWorld.files.get? ["creds.json"] ∧
        ∃ front, tree'.get? ["creds.json.tmp"] = some (.file 0o600 front) ∧ front.length = 5) ∧
      ∃ e tree', removeUnder lockedDirectory leftWorld.files "creds.json" =
          (tree', .error (.helper e)) ∧ e.kind = .storeWrite ∧
        (∃ members : Members, ∀ place, Leaves lockedDirectory leftWorld.files tree' "creds.json"
          (jsonBytes (.object (members.erase key))) place) ∧
        tree'.get? ["creds.json"] = leftWorld.files.get? ["creds.json"] ∧
        tree'.get? ["creds.json.tmp"] = some (.file 0o644 (jsonBytes (.object []))) := by
  have hname : Path.EndsInName "creds.json" := starts_bare.fits.endsInName
  have hsave : hasKind .storeWrite ((save ⟨"creds.json"⟩ {}).runOn blockedWorld).1 = true := by
    decide +kernel
  have hdelete : hasKind .storeWrite ((delete ⟨"creds.json"⟩).runOn blockedWorld).1 = true := by
    decide +kernel
  have hfull : hasKind .storeWrite (saveUnder fullDisk writableWorld.files "creds.json" {}).2 =
      true := by decide +kernel
  have hlocked : hasKind .storeWrite
      (removeUnder lockedDirectory leftWorld.files "creds.json").2 = true := by decide +kernel
  obtain ⟨e, he, -⟩ := exists_of_hasKind hsave
  obtain ⟨e', he', -⟩ := exists_of_hasKind hdelete
  obtain ⟨hsaves, hdeletes, -⟩ := failure_leaves ⟨"creds.json"⟩ blockedWorld
  obtain ⟨-, -, hkept⟩ := hsaves {} _ _ (Prod.ext he rfl)
  obtain ⟨-, -, hkept'⟩ := hdeletes _ _ (Prod.ext he' rfl)
  refine ⟨⟨_, Prod.ext he (hkept hname (by decide +kernel))⟩, ⟨_, Prod.ext he' (hkept' hname)⟩,
    ?_, ?_⟩
  · obtain ⟨e, he, hkind⟩ := exists_of_hasKind hfull
    obtain ⟨hleaves, -⟩ := ((failure_leaves ⟨"creds.json"⟩ writableWorld).2.2 fullDisk).1 {} _ _
      (Prod.ext rfl he)
    refine ⟨e, _, Prod.ext rfl he, hkind, hleaves, by decide +kernel, ?_⟩
    exact ⟨[0x7b, 0x0a, 0x20, 0x20, 0x22], by decide +kernel, rfl⟩
  · obtain ⟨e, he, hkind⟩ := exists_of_hasKind hlocked
    obtain ⟨hleaves, -⟩ := ((failure_leaves ⟨"creds.json"⟩ leftWorld).2.2 lockedDirectory).2 _ _
      (Prod.ext rfl he)
    exact ⟨e, _, Prod.ext rfl he, hkind, hleaves, by decide +kernel, by decide +kernel⟩

def directoryWorld : World :=
  { World.bare with files := ⟨[(["creds.json"], .directory 0o755)]⟩ }

def granted : StoredCredential := { refreshToken := "1//r" }

/-- The content that could not take the place of a directory stays beside it. -/
theorem save_directoryWorld :
    (∃ e, ((save ⟨"creds.json"⟩ granted).runOn directoryWorld).1 = .error (.helper e) ∧
      e.kind = .storeWrite) ∧
    directoryWorld.files.get? ["creds.json.tmp"] = none ∧
    ((save ⟨"creds.json"⟩ granted).runOn directoryWorld).2.files.get? ["creds.json.tmp"] =
      some (.file 0o600 (jsonBytes (.object [(key, granted.toJson)]))) := by
  have hfits : Fits "creds.json" := starts_bare.fits
  have hfolder : directoryWorld.files.isDirectory (folder "creds.json") = true := by
    decide +kernel
  have hwalk : directoryWorld.files.walk (start "creds.json")
      (Path.names (Path.directory "creds.json")) = .ok [] := by decide +kernel
  have hdirectory : directoryWorld.files.get? ([] ++ [fileName "creds.json"]) =
      some (.directory 0o755) := by decide +kernel
  have hnone : directoryWorld.files.get? ([] ++ [stagedName "creds.json"]) = none := by
    decide +kernel
  obtain ⟨e, hsave⟩ := save_over_directory hfits hfolder hwalk hdirectory hnone granted
  have hresult := runOn_save ⟨"creds.json"⟩ granted directoryWorld
  rw [hsave] at hresult
  have hstaged : [Text.ofString "creds.json.tmp"] = [] ++ [stagedName "creds.json"] := by
    decide +kernel
  refine ⟨⟨_, congrArg Prod.fst hresult, rfl⟩, by decide, ?_⟩
  rw [hresult, hstaged]
  exact (get?_put_below _ (append_ne_nil _ _) _ _).trans (if_pos rfl)

end CredentialStore

end CredentialHelper
