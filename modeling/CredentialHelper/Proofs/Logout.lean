import CredentialHelper.Proofs.RevokedGrant
import CredentialHelper.Proofs.StoreCell

/-!
# After a logout

Deleting the credential ends well in three ways: the file cannot be read as a store, it holds no
credential, or it is written again without one.  Each of them leaves a file from which nothing can
be loaded (`StoreFile.Vacant`), and neither loading nor deleting nor a save that fails changes that.
-/

namespace CredentialHelper

open CredentialHelper.Action World

namespace StoreFile

variable {tree tree' : FileTree} {path : Text} {members : Members}

/-- The file is no store, or it holds nothing under the key of the credential but perhaps a null. -/
inductive Vacant (tree : FileTree) (path : Text) : Prop
  | unread {e : HelperError} (h : read tree path = .error (.helper e))
  | absent {members : Members} (h : read tree path = .ok members) (hkey : members.get? key = none)
  | null {members : Members} (h : read tree path = .ok members)
      (hkey : members.get? key = some .null)

theorem kind_of_read {e : HelperError} (h : read tree path = .error (.helper e)) :
    e.kind = .storeRead := by
  rw [read_def] at h
  split at h
  · split at h
    · next herror =>
      cases h
      exact kind_of_readError herror
    · cases h
  · cases h
  · cases h
    rfl

namespace Vacant

theorem credential (h : Vacant tree path) :
    ∃ e, (StoreFile.read tree path).bind (StoreFile.credential path) = .error (.helper e) ∧
      e.kind = .storeRead := by
  cases h with
  | unread h =>
    rw [h]
    exact ⟨_, rfl, kind_of_read h⟩
  | @absent members h hkey =>
    have hnone : StoreFile.credential path members =
        .error (.plain .storeRead "no credential stored" loginFirst (about path)) := by
      rw [StoreFile.credential, hkey]
    rw [h]
    exact ⟨_, hnone, rfl⟩
  | @null members h hkey =>
    have hmalformed : ∃ report, StoreFile.credential path members = .error (.helper (.root
        ⟨.storeRead, "malformed credential in " ++ path, [], about path⟩
        (some (.invalid report)))) := by
      rw [StoreFile.credential, hkey]
      exact ⟨_, rfl⟩
    obtain ⟨report, hreport⟩ := hmalformed
    rw [h]
    exact ⟨_, hreport, rfl⟩

/-- From a vacant file there is nothing to delete. -/
theorem remove (h : Vacant tree path) : StoreFile.remove tree path = (tree, .ok false) := by
  cases h with
  | unread h => rw [StoreFile.remove_def, h]
  | absent h hkey => exact remove_none h hkey
  | null h hkey =>
    rw [StoreFile.remove_def, h]
    simp only [hkey]

end Vacant

/-- Whatever stood in the file, it is vacant after a deletion that ends well. -/
theorem vacant_of_remove {removed : Bool} (h : remove tree path = (tree', .ok removed)) :
    Vacant tree' path := by
  rw [remove_def] at h
  split at h
  · next hread =>
    cases h
    exact .unread hread
  · cases h
  · next members hread =>
    split at h
    · next hkey =>
      cases h
      exact .absent hread hkey
    · next hkey =>
      cases h
      exact .null hread hkey
    · split at h
      · cases h
      · next hwrite =>
        cases h
        have hreadable := readable_of_read hread
        have hgone : (members.erase key).get? key = none := by
          cases hreadable with
          | object hdepth hkeys hjoined hmembers =>
            exact Members.get?_eq_none_iff.2 (Members.not_mem_keys_erase hkeys)
        refine .absent (read_of_write hwrite (hreadable.erase key)) ?_
        rw [Json.get?_rereadMembers, hgone]
        rfl

/-! ## Saves that fail -/

theorem exists_read_eq_error {e : SystemError} (hallowed : ∀ s ∈ path, FileName.Allowed s)
    (h : tree.read path = .error e) : ∃ error, read tree path = .error (.helper error) := by
  rw [read_def, FileTree.readJson, FileTree.readText, FileName.encode_eq_ok hallowed, h]
  by_cases hmissing : e.errno = .notFound
  · simp [readError, hmissing]
  · simp [readError, hmissing]

/-- A content that stays beside the file leaves no file that could be read. -/
theorem vacant_of_replace {staged : FileTree} {content : Bytes} {e : SystemError}
    (hname : Path.EndsInName path)
    (hwrite : tree.write (stagingPath path) 0o600 content = .ok staged)
    (hreplace : staged.replace (stagingPath path) path = .error e) : Vacant staged path := by
  obtain ⟨mode, -, hstat⟩ := exists_directory_of_unmoved hname hwrite hreplace
  have hread : staged.read path = .error ⟨.isDirectory, path, none⟩ := by
    rw [FileTree.read, hstat]
  have husable := FileTree.usable_of_stat hstat
  obtain ⟨error, herror⟩ := exists_read_eq_error husable.allowed hread
  exact .unread herror

/-- A failed save in a directory that is there puts nothing into a vacant file. -/
theorem Vacant.of_save {c : StoredCredential} {f : Failure} (h : Vacant tree path)
    (hname : Path.EndsInName path) (hfolder : tree.isDirectory (folder path) = true)
    (hsave : save tree path c = (tree', .error f)) : Vacant tree' path := by
  have hkept := FileTree.makeDirectories_of_isDirectory hfolder 0o700
  rw [save_def] at hsave
  split at hsave
  · cases hsave
    exact h
  · next members _ =>
    have hends := ends_write tree path (members.insert key c.toJson)
    rw [hsave] at hends
    cases hends with
    | unmade hmade =>
      cases hkept.symm.trans hmade
    | unstaged hmade _ =>
      cases hkept.symm.trans hmade
      exact h
    | unmoved hmade hwrite hreplace => exact vacant_of_replace hname hwrite hreplace

end StoreFile

/-! ## Histories without a save -/

namespace CredentialStore

variable {s : CredentialStore} {w t : World}

/-- No call of the history saves a credential: those that try fail, at a path that ends in a name
and in a directory that is there.  A save that fails elsewhere may have made the directory through
which the path then leads to a file of somebody else. -/
def Unsaved (s : CredentialStore) : World → List StoreCall → Prop
  | _, [] => True
  | w, call :: calls =>
    (∀ c, call = .save c → (∃ f, ((s.save c).runOn w).1 = .error f) ∧ Path.EndsInName s.path ∧
      w.files.isDirectory (StoreFile.folder s.path) = true) ∧
    Unsaved s (call.onWorld s w) calls

theorem runOn_delete_of_vacant (h : StoreFile.Vacant w.files s.path) :
    s.delete.runOn w = (.ok (), w) := by
  rw [runOn_delete, h.remove]

theorem vacant_onWorld {call : StoreCall} (h : StoreFile.Vacant w.files s.path)
    (hcall : ∀ c, call = .save c → (∃ f, ((s.save c).runOn w).1 = .error f) ∧
      Path.EndsInName s.path ∧ w.files.isDirectory (StoreFile.folder s.path) = true) :
    StoreFile.Vacant (call.onWorld s w).files s.path := by
  cases call with
  | save c =>
    obtain ⟨⟨f, hf⟩, hname, hfolder⟩ := hcall c rfl
    rw [StoreCall.onWorld]
    rw [runOn_save] at hf ⊢
    rcases hsave : StoreFile.save w.files s.path c with ⟨files, f' | _⟩
    · exact h.of_save hname hfolder hsave
    · rw [hsave] at hf
      cases hf
  | delete =>
    rw [StoreCall.onWorld, runOn_delete_of_vacant h]
    exact h
  | load => exact h

theorem vacant_foldl {calls : List StoreCall} (hcalls : s.Unsaved w calls)
    (h : StoreFile.Vacant w.files s.path) :
    StoreFile.Vacant (calls.foldl (StoreCall.onWorld s) w).files s.path := by
  induction calls generalizing w with
  | nil => exact h
  | cons call calls ih => exact ih hcalls.2 (vacant_onWorld h hcalls.1)

theorem vacant_of_delete (h : s.delete.runOn w = (.ok (), t)) :
    StoreFile.Vacant t.files s.path := by
  rw [runOn_delete] at h
  rcases hremove : StoreFile.remove w.files s.path with ⟨files, f | removed⟩
  · rw [hremove] at h
    cases h
  · rw [hremove] at h
    have hvacant := StoreFile.vacant_of_remove hremove
    cases removed with
    | false =>
      cases h
      exact hvacant
    | true =>
      cases h
      exact hvacant

/-- Once the credential was deleted, and as long as none is saved, none can be loaded: the store
source fails where it reads the file and sends nothing, and deleting again changes nothing. -/
theorem loads_nothing_after_delete (h : s.delete.runOn w = (.ok (), t)) (calls : List StoreCall)
    (hcalls : s.Unsaved t calls) :
    let u := calls.foldl (StoreCall.onWorld s) t
    (∃ e, e.kind = .storeRead ∧
      s.load.runOn u = (.error (.helper e), Journaled.note s.loadingLine u) ∧
      ∀ timeout, (StoreSource.resolve s timeout).runOn u =
        (.error (.helper e), Journaled.note s.loadingLine u)) ∧
    s.delete.runOn u = (.ok (), u) := by
  intro u
  have hvacant : StoreFile.Vacant u.files s.path := vacant_foldl hcalls (vacant_of_delete h)
  obtain ⟨e, he, hkind⟩ := hvacant.credential
  have hload : s.load.runOn u = (.error (.helper e), Journaled.note s.loadingLine u) := by
    rw [runOn_load, he]
  refine ⟨⟨e, hkind, hload, fun timeout => ?_⟩, runOn_delete_of_vacant hvacant⟩
  rw [StoreSource.resolve, runOn_bind, hload]

theorem exists_delete_eq_ok {removed : Bool} {tree : FileTree}
    (h : StoreFile.remove w.files s.path = (tree, .ok removed)) :
    ∃ t, s.delete.runOn w = (.ok (), t) := by
  rw [runOn_delete, h]
  cases removed with
  | false => exact ⟨_, rfl⟩
  | true => exact ⟨_, rfl⟩

theorem loads_nothing_after_delete_bare :
    ∃ t, (delete ⟨"creds.json"⟩).runOn
        ([.save {}].foldl (StoreCall.onWorld ⟨"creds.json"⟩) World.bare) = (.ok (), t) ∧
      Unsaved ⟨"creds.json"⟩ t [.load, .delete] ∧
      ((delete ⟨"creds.json"⟩).runOn
        ([.load, .delete].foldl (StoreCall.onWorld ⟨"creds.json"⟩) t)).1 = .ok () := by
  have hcalls : ∀ c, .save c ∈ [StoreCall.save {}] → c.Storable := by
    intro c hc
    cases List.mem_singleton.1 hc
    exact StoredCredential.storable_default
  have hkeeps := keeps_foldl starts_bare [.save {}] hcalls (.inl ⟨rfl, rfl⟩)
  obtain ⟨after, removed, hremove, -⟩ := hkeeps.remove starts_bare
  obtain ⟨t, hrun⟩ := exists_delete_eq_ok (s := ⟨"creds.json"⟩) hremove
  have hunsaved : Unsaved ⟨"creds.json"⟩ t [.load, .delete] := ⟨nofun, nofun, trivial⟩
  have hdelete := (loads_nothing_after_delete hrun [.load, .delete] hunsaved).2
  exact ⟨t, hrun, hunsaved, congrArg Prod.fst hdelete⟩

end CredentialStore

end CredentialHelper
