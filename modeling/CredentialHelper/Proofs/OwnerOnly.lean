import CredentialHelper.Proofs.FailedWrite

/-!
# Who may read the stored credential

The store file gets its bits from the neighbouring file, which is new and the owner's alone unless
one was left over (`leftMode?`).  A write that succeeds takes that file away, and one that fails
leaves none with other bits, so that each file that is ever stored has the bits of a new file or
those of the file that was left over at the beginning.
-/

namespace CredentialHelper

namespace FileTree

variable {tree tree' : FileTree} {path : Text} {mode : Nat} {content : Bytes}

def fileMode? (tree : FileTree) (path : Text) : Option Nat :=
  match tree.stat path with
  | .ok (.file mode _) => some mode
  | _ => none

theorem fileMode?_of_stat (h : tree.stat path = .ok (.file mode content)) :
    tree.fileMode? path = some mode := by
  rw [fileMode?, h]

theorem exists_stat_of_fileMode? (h : tree.fileMode? path = some mode) :
    ∃ content, tree.stat path = .ok (.file mode content) := by
  rw [fileMode?] at h
  split at h
  · next content hstat =>
    cases h
    exact ⟨content, hstat⟩
  · cases h

theorem fileMode?_of_write (h : tree.write path mode content = .ok tree') :
    tree'.fileMode? path = some ((tree.fileMode? path).getD (masked mode)) := by
  have hkeeps := keepsDirectories_write h
  obtain ⟨parent, last, mode', hspot, hold, rfl⟩ := write_eq_ok h
  have hafter := stat_of_name (hkeeps.spot hspot)
    ((get?_put_below tree (append_ne_nil parent last) _ _).trans (if_pos rfl))
  rw [fileMode?_of_stat hafter]
  rcases hold with ⟨hnone, rfl⟩ | ⟨old, hentry⟩
  · rw [fileMode?, stat_of_none hspot hnone]
    rfl
  · rw [fileMode?_of_stat (stat_of_name hspot hentry)]
    rfl

theorem fileMode?_of_replace {source : Text} (h : tree.replace source path = .ok tree') :
    tree'.fileMode? path = tree.fileMode? source := by
  obtain ⟨parent, last, _, _, mode, content, hspot, hentry, -⟩ := replace_eq_ok h
  rw [fileMode?_of_stat (stat_of_replace h hspot hentry),
    fileMode?_of_stat (stat_of_name hspot hentry)]

end FileTree

namespace StoreFile

open FileTree

variable {tree tree' made staged : FileTree} {path : Text} {members : Members} {content : Bytes}

/-- The bits of a file that is left over under the neighbouring path, once the directory of the
store file is made. -/
def leftMode? (tree : FileTree) (path : Text) : Option Nat :=
  (tree.makeDirectories (folder path) 0o700).1.fileMode? (stagingPath path)

theorem leftMode?_of_made {r : Except SystemError Unit}
    (h : tree.makeDirectories (folder path) 0o700 = (made, r)) :
    leftMode? tree path = made.fileMode? (stagingPath path) := by
  rw [leftMode?, h]

theorem leftMode?_made {r : Except SystemError Unit}
    (h : tree.makeDirectories (folder path) 0o700 = (made, r)) :
    leftMode? made path = leftMode? tree path := by
  have hagain := makeDirectories_again tree (folder path) 0o700
  rw [h] at hagain
  rw [leftMode?_of_made h, leftMode?, hagain]

theorem usable_folder_of_spot {spot : Spot} (h : tree.spot (stagingPath path) = .ok spot) :
    Usable (folder path) := by
  by_cases hpath : path = []
  · rw [hpath]
    exact usable_dot
  · exact usable_folder (usable_of_front (usable_of_spot h) (List.prefix_append path _) hpath)

theorem leftMode?_of_spot {spot : Spot} (h : tree.spot (stagingPath path) = .ok spot) :
    leftMode? tree path = tree.fileMode? (stagingPath path) := by
  obtain ⟨parent, hwalk, -⟩ := walk_of_spot_staging h
  rw [← walk_folder] at hwalk
  obtain ⟨e, he⟩ := makeDirectories_of_walk (usable_folder_of_spot h) hwalk 0o700
  exact leftMode?_of_made he

theorem leftMode?_of_staged (hmade : tree.makeDirectories (folder path) 0o700 = (made, .ok ()))
    (hwrite : made.write (stagingPath path) 0o600 content = .ok staged) :
    staged.fileMode? (stagingPath path) = some ((leftMode? tree path).getD 0o600) := by
  rw [fileMode?_of_write hwrite, leftMode?_of_made hmade]
  rfl

theorem leftMode?_of_replace (h : staged.replace (stagingPath path) path = .ok tree') :
    leftMode? tree' path = none := by
  have hkeeps := keepsDirectories_replace h
  obtain ⟨parent, last, parent', last', mode, content, hsource, -, htarget, -, rfl⟩ :=
    replace_eq_ok h
  have hfits := fits_of_spot (endsInName_of_spot htarget) hsource
  obtain ⟨_, hwalk, hstaged, -⟩ := walk_of_spot_staging hsource
  cases hstaged
  cases htarget.symm.trans (hfits.spot hwalk)
  have hspot := hkeeps.spot hsource
  have hne : parent ++ [stagedName path] ≠ parent ++ [fileName path] := fun heq =>
    stagedName_ne hfits (List.singleton_inj.1 (List.append_cancel_left heq))
  have hnone : ((staged.erase (parent ++ [stagedName path])).put (parent ++ [fileName path])
      (.file mode content)).get? (parent ++ [stagedName path]) = none := by
    rw [get?_put_below _ (append_ne_nil _ _), if_neg hne, get?_erase_below _ (append_ne_nil _ _),
      if_pos rfl]
  rw [leftMode?_of_spot hspot, fileMode?, stat_of_none hspot hnone]

/-- After a write that succeeds the store file has the bits of the file that was left over, which is
gone. -/
theorem fileMode?_of_stored (h : write tree path members = (tree', .ok ())) :
    tree'.fileMode? path = some ((leftMode? tree path).getD 0o600) ∧ leftMode? tree' path = none ∧
      Path.EndsInName path := by
  have hends := ends_write tree path members
  rw [h] at hends
  cases hends with
  | done hmade hwrite hreplace =>
    obtain ⟨_, _, _, _, _, _, -, -, htarget, -⟩ := replace_eq_ok hreplace
    exact ⟨(fileMode?_of_replace hreplace).trans (leftMode?_of_staged hmade hwrite),
      leftMode?_of_replace hreplace, endsInName_of_spot htarget⟩

/-- No write leaves a file with bits that are neither those of a new file nor those that were left
over before. -/
theorem leftMode?_write {mode : Nat} (h : leftMode? (write tree path members).1 path = some mode) :
    mode = 0o600 ∨ leftMode? tree path = some mode := by
  have hends := ends_write tree path members
  generalize write tree path members = result at hends h
  cases hends with
  | unmade hmade =>
    rw [leftMode?_made hmade] at h
    exact .inr h
  | unstaged hmade _ =>
    rw [leftMode?_made hmade] at h
    exact .inr h
  | unmoved hmade hwrite _ =>
    obtain ⟨_, _, _, hspot, -⟩ := entry_of_write hwrite
    rw [leftMode?_of_spot hspot, leftMode?_of_staged hmade hwrite] at h
    cases hleft : leftMode? tree path with
    | none =>
      rw [hleft] at h
      cases h
      exact .inl rfl
    | some left =>
      rw [hleft] at h
      cases h
      exact .inr rfl
  | done _ _ hreplace =>
    rw [leftMode?_of_replace hreplace] at h
    cases h

/-! ## What is admitted stays admitted -/

variable {p : Nat → Prop}

def Admits (p : Nat → Prop) (tree : FileTree) (path : Text) : Prop :=
  ∀ mode, leftMode? tree path = some mode → p mode

/-- A credential was stored, and the store file and what is left over have admitted bits. -/
structure Sealed (p : Nat → Prop) (tree : FileTree) (path : Text) : Prop where
  endsInName : Path.EndsInName path
  file : ∃ mode, tree.fileMode? path = some mode ∧ p mode
  left : Admits p tree path

theorem Admits.write (h : Admits p tree path) (hp : p 0o600) (members : Members) :
    Admits p (StoreFile.write tree path members).1 path := by
  intro mode hmode
  rcases leftMode?_write hmode with rfl | hleft
  · exact hp
  · exact h mode hleft

theorem Admits.sealed (h : Admits p tree path) (hp : p 0o600)
    (hwrite : StoreFile.write tree path members = (tree', .ok ())) : Sealed p tree' path := by
  obtain ⟨hmode, hleft, hname⟩ := fileMode?_of_stored hwrite
  refine ⟨hname, ⟨_, hmode, ?_⟩, fun mode hsome => ?_⟩
  · cases hbefore : leftMode? tree path with
    | none => exact hp
    | some mode => exact h mode hbefore
  · rw [hleft] at hsome
    cases hsome

/-- A write over a stored credential that fails changes nothing, and one that succeeds stores again
with admitted bits. -/
theorem Sealed.write (h : Sealed p tree path) (hp : p 0o600) (members : Members) :
    Sealed p (StoreFile.write tree path members).1 path := by
  rcases hwrite : StoreFile.write tree path members with ⟨tree', f | _⟩
  · obtain ⟨mode, hmode, -⟩ := h.file
    obtain ⟨content, hstat⟩ := exists_stat_of_fileMode? hmode
    rw [eq_of_write rfl rfl h.endsInName hstat hwrite]
    exact h
  · exact h.left.sealed hp hwrite

end StoreFile

namespace CredentialStore

open StoreFile

variable {s : CredentialStore} {w t : World} {p : Nat → Prop}

def SavedIn (s : CredentialStore) : World → List StoreCall → Prop
  | _, [] => False
  | w, call :: calls =>
    (∃ c, call = .save c ∧ ((s.save c).runOn w).1 = .ok ()) ∨ SavedIn s (call.onWorld s w) calls

/-- What a write of the store file preserves, every call preserves. -/
theorem onWorld_of_write {P : FileTree → Prop}
    (hwrite : ∀ tree members, P tree → P (StoreFile.write tree s.path members).1) (h : P w.files)
    (call : StoreCall) : P (call.onWorld s w).files := by
  cases call with
  | save c =>
    rw [StoreCall.onWorld, files_save]
    rcases save_cases w.files s.path c with ⟨cause, -, heq⟩ | ⟨-, members, heq⟩
    · rw [heq]
      exact h
    · rw [heq]
      exact hwrite _ members h
  | delete =>
    rw [StoreCall.onWorld, files_delete]
    rcases remove_cases w.files s.path with ⟨cause, -, heq⟩ | ⟨-, heq | ⟨_, rest, -, heq⟩⟩
    · rw [heq]
      exact h
    · rw [heq]
      exact h
    · rw [heq]
      exact hwrite _ rest h
  | load => exact h

theorem admits_onWorld (h : Admits p w.files s.path) (hp : p 0o600) (call : StoreCall) :
    Admits p (call.onWorld s w).files s.path :=
  onWorld_of_write (P := fun tree => Admits p tree s.path)
    (fun _ members h => h.write hp members) h call

theorem sealed_onWorld (h : Sealed p w.files s.path) (hp : p 0o600) (call : StoreCall) :
    Sealed p (call.onWorld s w).files s.path :=
  onWorld_of_write (P := fun tree => Sealed p tree s.path)
    (fun _ members h => h.write hp members) h call

theorem write_of_saved {c : StoredCredential} (h : (s.save c).runOn w = (.ok (), t)) :
    ∃ members, StoreFile.write w.files s.path members = (t.files, .ok ()) := by
  obtain ⟨hsave, -⟩ := save_eq_ok h
  rcases save_cases w.files s.path c with ⟨cause, -, heq⟩ | ⟨-, members, heq⟩
  · cases congrArg Prod.snd (heq.symm.trans hsave)
  · exact ⟨members, heq.symm.trans hsave⟩

theorem sealed_foldl (h : Sealed p w.files s.path) (hp : p 0o600) (calls : List StoreCall) :
    Sealed p (calls.foldl (StoreCall.onWorld s) w).files s.path := by
  induction calls generalizing w with
  | nil => exact h
  | cons call calls ih => exact ih (sealed_onWorld h hp call)

/-- The first save that returns seals the file, and the calls after it keep it so. -/
theorem sealed_of_savedIn (h : Admits p w.files s.path) (hp : p 0o600) {calls : List StoreCall}
    (hsaved : SavedIn s w calls) :
    Sealed p (calls.foldl (StoreCall.onWorld s) w).files s.path := by
  induction calls generalizing w with
  | nil => exact hsaved.elim
  | cons call calls ih =>
    rcases hsaved with ⟨c, rfl, hsave⟩ | hlater
    · obtain ⟨members, hwrite⟩ := write_of_saved (Prod.ext hsave rfl)
      exact sealed_foldl (h.sealed hp hwrite) hp calls
    · exact ih (admits_onWorld h hp call) hlater

/-- A credential that is saved stands in a file with the bits of a new file, which the owner alone
may read, or of the file that was left over at the neighbouring path.  The same holds after any
calls of which one saved a credential. -/
theorem mode_of_saved (s : CredentialStore) (w : World) :
    (∀ c t, (s.save c).runOn w = (.ok (), t) →
      t.files.fileMode? s.path = some ((leftMode? w.files s.path).getD 0o600) ∧
      leftMode? t.files s.path = none) ∧
    ∀ calls, SavedIn s w calls → ∃ mode,
      (calls.foldl (StoreCall.onWorld s) w).files.fileMode? s.path = some mode ∧
      (mode = 0o600 ∨ leftMode? w.files s.path = some mode) := by
  constructor
  · intro c t h
    obtain ⟨members, hwrite⟩ := write_of_saved h
    obtain ⟨hmode, hleft, -⟩ := fileMode?_of_stored hwrite
    exact ⟨hmode, hleft⟩
  · intro calls hsaved
    exact (sealed_of_savedIn (fun _ => .inr) (.inl rfl) hsaved).file

theorem mode_of_saved_bare :
    SavedIn ⟨"creds.json"⟩ World.bare [.save {}, .delete, .load] ∧
      ([.save {}, .delete, .load].foldl (StoreCall.onWorld ⟨"creds.json"⟩)
        World.bare).files.fileMode? "creds.json" = some 0o600 := by
  have hsave : ((save ⟨"creds.json"⟩ {}).runOn World.bare).1 = .ok () :=
    eq_ok_of_isOk (by decide +kernel)
  have hsaved : SavedIn ⟨"creds.json"⟩ World.bare [.save {}, .delete, .load] :=
    .inl ⟨{}, rfl, hsave⟩
  have hnone : leftMode? World.bare.files "creds.json" = none := by decide +kernel
  obtain ⟨mode, hmode, hbits⟩ := (mode_of_saved ⟨"creds.json"⟩ World.bare).2 _ hsaved
  refine ⟨hsaved, hmode.trans ?_⟩
  rcases hbits with rfl | hleft
  · rfl
  · cases hnone.symm.trans hleft

/-- A world in which everybody may read a file that is left over. -/
def leftoverWorld : World :=
  { World.bare with files := ⟨[(["creds.json.tmp"], .file 0o644 [])]⟩ }

/-- The credential that is saved over it can be read by everybody. -/
theorem save_leftoverWorld :
    ((save ⟨"creds.json"⟩ {}).runOn leftoverWorld).1 = .ok () ∧
      ((save ⟨"creds.json"⟩ {}).runOn leftoverWorld).2.files.fileMode? "creds.json" =
        some 0o644 := by
  refine ⟨eq_ok_of_isOk ?_, ?_⟩
  · decide +kernel
  · decide +kernel

end CredentialStore

end CredentialHelper
