import CredentialHelper.Host.World
import CredentialHelper.Store.File

/-!
# Access to the store

Loading, saving and deleting the stored credential of the helper, with a record of each in the
journal.
-/

namespace CredentialHelper

structure CredentialStore where
  path : Text
  deriving DecidableEq, Repr

namespace CredentialStore

def ofPath (homes : Homes) (path : Text) : Except NameError CredentialStore :=
  (Path.expand homes path).map CredentialStore.mk

def load (s : CredentialStore) : Action World StoredCredential := do
  Action.log .debug "store" ("Loading credential from " ++ s.path)
  World.onFiles fun files => (files, do StoreFile.credential s.path (← StoreFile.read files s.path))

def save (s : CredentialStore) (c : StoredCredential) : Action World Unit := do
  World.onFiles fun files => StoreFile.save files s.path c
  Action.log .info "store" ("Credential saved to " ++ s.path)

/-- Removes the stored credential. It is no failure if there is none. -/
def delete (s : CredentialStore) : Action World Unit := do
  let removed ← World.onFiles fun files => StoreFile.remove files s.path
  if removed then Action.log .info "store" ("Credential removed from " ++ s.path)

/-! ## What the operations do to the world -/

def loadingLine (s : CredentialStore) : Line :=
  .log ⟨.debug, "store", "Loading credential from " ++ s.path⟩

def savedLine (s : CredentialStore) : Line :=
  .log ⟨.info, "store", "Credential saved to " ++ s.path⟩

def removedLine (s : CredentialStore) : Line :=
  .log ⟨.info, "store", "Credential removed from " ++ s.path⟩

theorem runOn_load (s : CredentialStore) (w : World) :
    s.load.runOn w =
      ((StoreFile.read w.files s.path).bind (StoreFile.credential s.path),
        Journaled.note s.loadingLine w) := by
  rw [load, Action.runOn_bind]
  rfl

theorem runOn_save (s : CredentialStore) (c : StoredCredential) (w : World) :
    (s.save c).runOn w =
      match StoreFile.save w.files s.path c with
      | (files, .ok ()) => (.ok (), Journaled.note s.savedLine { w with files })
      | (files, .error f) => (.error f, { w with files }) := by
  rw [save, Action.runOn_bind, World.onFiles, Action.runOn_ofFunction]
  rcases StoreFile.save w.files s.path c with ⟨files, f | _⟩ <;> rfl

theorem runOn_delete (s : CredentialStore) (w : World) :
    s.delete.runOn w =
      match StoreFile.remove w.files s.path with
      | (files, .ok true) => (.ok (), Journaled.note s.removedLine { w with files })
      | (files, .ok false) => (.ok (), { w with files })
      | (files, .error f) => (.error f, { w with files }) := by
  rw [delete, Action.runOn_bind, World.onFiles, Action.runOn_ofFunction]
  rcases StoreFile.remove w.files s.path with ⟨files, f | (_ | _)⟩ <;> rfl

/-! ## What their outcomes say -/

variable {s : CredentialStore} {c : StoredCredential} {w t : World} {f : Failure}

theorem save_eq_ok (h : (s.save c).runOn w = (.ok (), t)) :
    StoreFile.save w.files s.path c = (t.files, .ok ()) ∧ t.now = w.now := by
  rw [runOn_save] at h
  rcases hsave : StoreFile.save w.files s.path c with ⟨files, f | _⟩
  · rw [hsave] at h
    cases h
  · rw [hsave] at h
    cases h
    exact ⟨rfl, rfl⟩

theorem save_eq_error (h : (s.save c).runOn w = (.error f, t)) :
    ∃ files, StoreFile.save w.files s.path c = (files, .error f) ∧ t = { w with files } := by
  rw [runOn_save] at h
  rcases hsave : StoreFile.save w.files s.path c with ⟨files, f' | _⟩
  · rw [hsave] at h
    cases h
    exact ⟨files, rfl, rfl⟩
  · rw [hsave] at h
    cases h

theorem delete_eq_ok (h : s.delete.runOn w = (.ok (), t)) :
    ∃ removed, StoreFile.remove w.files s.path = (t.files, .ok removed) := by
  rw [runOn_delete] at h
  rcases hremove : StoreFile.remove w.files s.path with ⟨files, f | _ | _⟩
  · rw [hremove] at h
    cases h
  · rw [hremove] at h
    cases h
    exact ⟨false, rfl⟩
  · rw [hremove] at h
    cases h
    exact ⟨true, rfl⟩

theorem delete_eq_error (h : s.delete.runOn w = (.error f, t)) :
    ∃ files, StoreFile.remove w.files s.path = (files, .error f) ∧ t = { w with files } := by
  rw [runOn_delete] at h
  rcases hremove : StoreFile.remove w.files s.path with ⟨files, f' | _ | _⟩
  · rw [hremove] at h
    cases h
    exact ⟨files, rfl, rfl⟩
  · rw [hremove] at h
    cases h
  · rw [hremove] at h
    cases h

theorem result_save (s : CredentialStore) (c : StoredCredential) (w : World) :
    ((s.save c).runOn w).1 = (StoreFile.save w.files s.path c).2 := by
  rw [runOn_save]
  rcases StoreFile.save w.files s.path c with ⟨files, f | _⟩
  · rfl
  · rfl

theorem result_delete (s : CredentialStore) (w : World) :
    (s.delete.runOn w).1 = (StoreFile.remove w.files s.path).2.map fun _ => () := by
  rw [runOn_delete]
  rcases StoreFile.remove w.files s.path with ⟨files, f | _ | _⟩
  · rfl
  · rfl
  · rfl

theorem files_save (s : CredentialStore) (c : StoredCredential) (w : World) :
    ((s.save c).runOn w).2.files = (StoreFile.save w.files s.path c).1 := by
  rw [runOn_save]
  rcases StoreFile.save w.files s.path c with ⟨files, f | _⟩
  · rfl
  · rfl

theorem files_delete (s : CredentialStore) (w : World) :
    (s.delete.runOn w).2.files = (StoreFile.remove w.files s.path).1 := by
  rw [runOn_delete]
  rcases StoreFile.remove w.files s.path with ⟨files, f | _ | _⟩
  · rfl
  · rfl
  · rfl

end CredentialStore

end CredentialHelper
