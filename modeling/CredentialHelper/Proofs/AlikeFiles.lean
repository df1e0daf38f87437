import CredentialHelper.Proofs.AlikeCredentials
import CredentialHelper.Proofs.MadeDirectories

/-!
# Files that differ in access tokens

Two trees are alike if at every place they have the same entry, up to the access tokens of stored
credentials.  Operations on them end alike and keep them alike, and so do loading and saving a
credential.
-/

namespace CredentialHelper

open StoreFile

/-- Two entries that are the same but for the access tokens of stored credentials. -/
inductive Entry.Alike : Entry → Entry → Prop
  | file (mode : Nat) {content content' : Bytes} (h : AlikeContents content content') :
    Alike (.file mode content) (.file mode content')
  | directory (mode : Nat) : Alike (.directory mode) (.directory mode)

theorem Entry.Alike.refl (e : Entry) : e.Alike e := by
  cases e with
  | file mode content => exact .file mode (.same content)
  | directory mode => exact .directory mode

namespace FileTree

def Alike (tree tree' : FileTree) : Prop :=
  ∀ place, Option.Rel Entry.Alike (tree.get? place) (tree'.get? place)

def AlikeAfter {ρ : Type} (r r' : FileTree × ρ) : Prop := r.1.Alike r'.1 ∧ r.2 = r'.2

theorem AlikeAfter.exists_eq {ρ : Type} {r r' : FileTree × ρ} (h : AlikeAfter r r') :
    ∃ tree tree' x, r = (tree, x) ∧ r' = (tree', x) ∧ tree.Alike tree' :=
  ⟨r.1, r'.1, r.2, rfl, Prod.ext rfl h.2.symm, h.1⟩

namespace Alike

variable {tree tree' : FileTree}

theorem refl (tree : FileTree) : tree.Alike tree := by
  intro place
  cases tree.get? place with
  | none => exact .none
  | some e => exact .some (Entry.Alike.refl e)

/-! ## What is found -/

theorem step (h : tree.Alike tree') : tree.step = tree'.step := by
  funext place name
  have hentry := h (place ++ [name])
  rw [FileTree.step, FileTree.step]
  generalize tree.get? (place ++ [name]) = e, tree'.get? (place ++ [name]) = e' at hentry
  cases hentry with
  | none => rfl
  | some hentry => cases hentry <;> rfl

theorem spot (h : tree.Alike tree') (path : Text) : tree.spot path = tree'.spot path := by
  unfold FileTree.spot
  rw [h.step]

theorem stat (h : tree.Alike tree') (path : Text) :
    Agree Entry.Alike (tree.stat path) (tree'.stat path) := by
  rw [FileTree.stat, FileTree.stat, h.spot]
  cases tree'.spot path with
  | error errno => exact .error errno
  | ok spot =>
    cases spot with
    | directory place =>
      have hentry := h place
      show Agree Entry.Alike (.ok ((tree.get? place).getD _)) (.ok ((tree'.get? place).getD _))
      generalize tree.get? place = e, tree'.get? place = e' at hentry
      cases hentry with
      | none => exact .ok (.directory _)
      | some hentry => exact .ok hentry
    | name parent last slash =>
      have hentry := h (parent ++ [last])
      simp only [bind, Except.bind]
      generalize tree.get? (parent ++ [last]) = e, tree'.get? (parent ++ [last]) = e' at hentry
      cases hentry with
      | none => exact .error _
      | some hentry =>
        cases hentry with
        | directory mode => exact .ok (.directory mode)
        | file mode hcontent =>
          cases slash with
          | true => exact .error _
          | false => exact .ok (.file mode hcontent)

theorem pathExists (h : tree.Alike tree') (path : Text) :
    tree.pathExists path = tree'.pathExists path := by
  have hstat := h.stat path
  rw [FileTree.pathExists, FileTree.pathExists]
  generalize tree.stat path = r, tree'.stat path = r' at hstat
  cases hstat <;> rfl

theorem isDirectory (h : tree.Alike tree') (path : Text) :
    tree.isDirectory path = tree'.isDirectory path := by
  have hstat := h.stat path
  rw [FileTree.isDirectory, FileTree.isDirectory]
  generalize tree.stat path = r, tree'.stat path = r' at hstat
  cases hstat with
  | error errno => rfl
  | ok hentry => cases hentry <;> rfl

theorem read (h : tree.Alike tree') (path : Text) :
    Agree AlikeContents (tree.read path) (tree'.read path) := by
  have hstat := h.stat path
  rw [FileTree.read, FileTree.read]
  generalize tree.stat path = r, tree'.stat path = r' at hstat
  cases hstat with
  | error errno => exact .error _
  | ok hentry =>
    cases hentry with
    | directory mode => exact .error _
    | file mode hcontent => exact .ok hcontent

/-! ## Changes -/

theorem put (h : tree.Alike tree') (place : Place) {e e' : Entry} (he : e.Alike e') :
    (tree.put place e).Alike (tree'.put place e') := by
  intro place'
  by_cases hroot : place' = []
  · rw [hroot]
    exact .some (.directory _)
  · rw [get?_put _ _ _ _ hroot, get?_put _ _ _ _ hroot]
    by_cases hplace : place' = place
    · rw [if_pos hplace, if_pos hplace]
      exact .some he
    · rw [if_neg hplace, if_neg hplace]
      exact h place'

theorem erase (h : tree.Alike tree') (place : Place) :
    (tree.erase place).Alike (tree'.erase place) := by
  intro place'
  by_cases hroot : place' = []
  · rw [hroot]
    exact .some (.directory _)
  · rw [get?_erase _ _ _ hroot, get?_erase _ _ _ hroot]
    by_cases hplace : place' = place
    · rw [if_pos hplace, if_pos hplace]
      exact .none
    · rw [if_neg hplace, if_neg hplace]
      exact h place'

theorem write (h : tree.Alike tree') (path : Text) (mode : Nat) {content content' : Bytes}
    (hcontent : AlikeContents content content') :
    Agree FileTree.Alike (tree.write path mode content) (tree'.write path mode content') := by
  rw [FileTree.write, FileTree.write, h.spot]
  cases tree'.spot path with
  | error errno => exact .error _
  | ok spot =>
    cases spot with
    | directory place => exact .error _
    | name parent last slash =>
      cases slash with
      | true => exact .error _
      | false =>
        have hentry := h (parent ++ [last])
        dsimp only
        generalize tree.get? (parent ++ [last]) = e, tree'.get? (parent ++ [last]) = e' at hentry
        cases hentry with
        | none => exact .ok (h.put _ (.file _ hcontent))
        | some hentry =>
          cases hentry with
          | directory mode => exact .error _
          | file mode _ => exact .ok (h.put _ (.file mode hcontent))

theorem makeDirectory (h : tree.Alike tree') (path : Text) (mode : Nat) :
    Agree FileTree.Alike (tree.makeDirectory path mode) (tree'.makeDirectory path mode) := by
  rw [FileTree.makeDirectory, FileTree.makeDirectory, h.spot]
  cases tree'.spot path with
  | error errno => exact .error _
  | ok spot =>
    cases spot with
    | directory place => exact .error _
    | name parent last slash =>
      have hentry := h (parent ++ [last])
      dsimp only
      generalize tree.get? (parent ++ [last]) = e, tree'.get? (parent ++ [last]) = e' at hentry
      cases hentry with
      | none => exact .ok (h.put _ (.directory _))
      | some hentry => exact .error _

theorem replace (h : tree.Alike tree') (source target : Text) :
    Agree FileTree.Alike (tree.replace source target) (tree'.replace source target) := by
  rw [FileTree.replace, FileTree.replace, h.spot, h.spot]
  rcases tree'.spot source with _ | (_ | ⟨parent, last, slash⟩)
  · exact .error _
  · rcases tree'.spot target with _ | _
    · exact .error _
    · exact .error _
  rcases tree'.spot target with _ | (_ | ⟨parent', last', slash'⟩)
  · exact .error _
  · exact .error _
  have hsource := h (parent ++ [last])
  have htarget := h (parent' ++ [last'])
  dsimp only
  generalize tree.get? (parent ++ [last]) = e, tree'.get? (parent ++ [last]) = e' at hsource
  cases hsource with
  | none => exact .error _
  | some hsource =>
    cases hsource with
    | directory mode => exact .error _
    | file mode hcontent =>
      have hmoved := (h.erase (parent ++ [last])).put (parent' ++ [last']) (.file mode hcontent)
      cases slash || slash' with
      | true => exact .error _
      | false =>
        dsimp only
        generalize tree.get? (parent' ++ [last']) = e, tree'.get? (parent' ++ [last']) = e'
          at htarget
        cases htarget with
        | none => exact .ok hmoved
        | some htarget =>
          cases htarget with
          | directory mode => exact .error _
          | file mode' _ => exact .ok hmoved

theorem ensured (h : tree.Alike tree') (path : Text) (mode : Nat) :
    AlikeAfter (tree.ensured path mode) (tree'.ensured path mode) := by
  have hmade := h.makeDirectory path mode
  rw [FileTree.ensured, FileTree.ensured, h.isDirectory]
  generalize tree.makeDirectory path mode = r, tree'.makeDirectory path mode = r' at hmade
  cases hmade with
  | ok hmade => exact ⟨hmade, rfl⟩
  | error e => exact ⟨h, rfl⟩

theorem makeDirectoriesFrom (h : tree.Alike tree') (path : Text) (mode fuel : Nat) :
    AlikeAfter (tree.makeDirectoriesFrom {} path mode fuel)
      (tree'.makeDirectoriesFrom {} path mode fuel) := by
  induction fuel generalizing path mode with
  | zero => exact ⟨h, rfl⟩
  | succ fuel ih =>
    rw [FileTree.makeDirectoriesFrom, FileTree.makeDirectoriesFrom]
    simp only [ensureWithin_unlimited]
    rw [h.pathExists]
    split
    · obtain ⟨made, made', result, hr, hr', hmade⟩ := (ih (around path).1 0o777).exists_eq
      rw [hr, hr']
      cases result with
      | error e =>
        dsimp only
        split
        · exact ⟨hmade, rfl⟩
        · split
          · exact ⟨hmade, rfl⟩
          · exact hmade.ensured path mode
      | ok _ =>
        dsimp only
        split
        · exact ⟨hmade, rfl⟩
        · exact hmade.ensured path mode
    · exact h.ensured path mode

/-! ## The store file -/

def AlikeDocuments (v v' : Json) : Prop :=
  v = v' ∨ ∃ members members', v = .object members ∧ v' = .object members' ∧
    StoreFile.Alike members members'

theorem readJson (h : tree.Alike tree') (path : Text) :
    Agree AlikeDocuments (tree.readJson path) (tree'.readJson path) := by
  have hread := h.read path
  rw [FileTree.readJson, FileTree.readJson, FileTree.readText, FileTree.readText]
  cases FileName.encode path with
  | error e => exact .error _
  | ok name =>
    dsimp only
    generalize tree.read path = r, tree'.read path = r' at hread
    cases hread with
    | error e => exact .error _
    | ok hcontent =>
      cases hcontent with
      | same => exact Agree.refl (fun _ => .inl rfl) _
      | @stores _ members members' hdocument hdocument' alike =>
        obtain ⟨t, ht, hparse⟩ := hdocument
        obtain ⟨t', ht', hparse'⟩ := hdocument'
        dsimp only
        rw [ht, ht']
        dsimp only
        rw [hparse, hparse']
        exact .ok (.inr ⟨members, members', rfl, rfl, alike⟩)

end Alike

end FileTree

namespace StoreFile

open FileTree

variable {tree tree' : FileTree}

theorem read_alike (h : tree.Alike tree') (path : Text) :
    Agree StoreFile.Alike (read tree path) (read tree' path) := by
  have hjson := h.readJson path
  rw [read_def, read_def]
  generalize tree.readJson path = r, tree'.readJson path = r' at hjson
  cases hjson with
  | error cause => exact Agree.refl Members.AlikeBut.refl _
  | ok hdocuments =>
    rcases hdocuments with rfl | ⟨members, members', rfl, rfl, hmembers⟩
    · exact Agree.refl Members.AlikeBut.refl _
    · exact .ok hmembers

theorem readOrEmpty_alike (h : tree.Alike tree') (path : Text) :
    Agree StoreFile.Alike (readOrEmpty tree path) (readOrEmpty tree' path) := by
  have hread := read_alike h path
  rw [readOrEmpty_def, readOrEmpty_def]
  generalize read tree path = r, read tree' path = r' at hread
  cases hread with
  | ok hmembers => exact .ok hmembers
  | error f => exact Agree.refl Members.AlikeBut.refl _

theorem stage_alike (h : tree.Alike tree') (path : Text) {members members' : Members}
    (hcontent : AlikeContents (jsonBytes (.object members)) (jsonBytes (.object members'))) :
    AlikeAfter (stage tree path members) (stage tree' path members') := by
  rw [stage_def, stage_def, makeDirectories, makeDirectories, makeDirectoriesWithin,
    makeDirectoriesWithin]
  obtain ⟨made, made', result, hr, hr', hmade⟩ := (h.makeDirectoriesFrom
    (if (Path.directory path).isEmpty then "." else Path.directory path) 0o700
    ((if (Path.directory path).isEmpty then Text.ofString "." else Path.directory path).length +
      1)).exists_eq
  rw [hr, hr']
  cases result with
  | error e => exact ⟨hmade, rfl⟩
  | ok _ =>
    have hwritten := hmade.write (stagingPath path) 0o600 hcontent
    dsimp only
    generalize made.write _ _ _ = r, made'.write _ _ _ = r' at hwritten ⊢
    cases hwritten with
    | error e => exact ⟨hmade, rfl⟩
    | ok hwritten => exact ⟨hwritten, rfl⟩

theorem commit_alike (h : tree.Alike tree') (path : Text) :
    AlikeAfter (commit tree path) (commit tree' path) := by
  have hreplaced := h.replace (stagingPath path) path
  rw [commit_def, commit_def]
  generalize tree.replace _ _ = r, tree'.replace _ _ = r' at hreplaced
  cases hreplaced with
  | error e => exact ⟨h, rfl⟩
  | ok hreplaced => exact ⟨hreplaced, rfl⟩

theorem write_alike (h : tree.Alike tree') (path : Text) {members members' : Members}
    (hcontent : AlikeContents (jsonBytes (.object members)) (jsonBytes (.object members'))) :
    AlikeAfter (write tree path members) (write tree' path members') := by
  rw [write_def, write_def]
  obtain ⟨staged, staged', result, hr, hr', hstaged⟩ := (stage_alike h path hcontent).exists_eq
  rw [hr, hr']
  cases result with
  | error e => exact ⟨hstaged, rfl⟩
  | ok _ =>
    obtain ⟨committed, committed', result, hr, hr', hcommitted⟩ :=
      (commit_alike hstaged path).exists_eq
    dsimp only
    rw [hr, hr']
    cases result with
    | error e => exact ⟨hcommitted, rfl⟩
    | ok _ => exact ⟨hcommitted, rfl⟩

theorem save_alike (h : tree.Alike tree') (path : Text) {c c' : StoredCredential}
    (hc : c.Alike c') : AlikeAfter (save tree path c) (save tree' path c') := by
  have hread := readOrEmpty_alike h path
  have hreadable {members : Members} := @readable_of_readOrEmpty tree path members
  have hreadable' {members : Members} := @readable_of_readOrEmpty tree' path members
  rw [save_def, save_def]
  generalize readOrEmpty tree path = r, readOrEmpty tree' path = r' at hread hreadable hreadable'
  cases hread with
  | error f => exact ⟨h, rfl⟩
  | ok hmembers =>
    exact write_alike h path (alikeContents_insert hmembers (hreadable rfl) (hreadable' rfl) hc)

end StoreFile

end CredentialHelper
