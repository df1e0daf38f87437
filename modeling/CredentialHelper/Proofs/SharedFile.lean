import CredentialHelper.Proofs.AlikeCredentials
import CredentialHelper.Proofs.Logout

/-!
# A store file that is shared

The store file holds members of others beside the credential.  Saving puts the credential under its
key and deleting takes it out; the members under other keys keep their values and their order
through reading and writing (`saved_deleted_members`).  A null under the key counts as no
credential, so that deleting leaves it.
-/

namespace CredentialHelper

theorem StoredCredential.Storable.joined_eq_self {c : StoredCredential} (h : c.Storable) :
    c.joined = c := by
  rw [StoredCredential.joined, Json.joined_eq_self h.accessToken,
    Json.joined_eq_self h.refreshToken, Json.joined_eq_self h.clientId,
    Json.joined_eq_self h.clientSecret, Json.joined_eq_self h.tokenUri]

namespace StoreFile

variable {tree tree' : FileTree} {path : Text} {members : Members} {c : StoredCredential}

theorem read_of_readJson (h : tree.readJson path = .ok (.object members)) :
    read tree path = .ok members := by
  rw [read_def, h]

theorem readJson_of_document {mode : Nat} {content : Bytes} {v : Json}
    (hstat : tree.stat path = .ok (.file mode content)) (h : IsDocument content v) :
    tree.readJson path = .ok v := by
  obtain ⟨t, ht, hparse⟩ := h
  have hname := FileName.encode_eq_ok (FileTree.usable_of_stat hstat).allowed
  rw [FileTree.readJson_of_bytes hname (FileTree.read_of_stat hstat) ht, hparse]
  rfl

/-- A save puts the credential into the object. -/
theorem readJson_of_save (hjson : tree.readJson path = .ok (.object members))
    (hfree : ∀ p ∈ members, Json.FloatFree p.2) (h : save tree path c = (tree', .ok ())) :
    tree'.readJson path = .ok (.object (members.insert key c.joined.toJson)) := by
  have hread := read_of_readJson hjson
  rw [save_def, readOrEmpty_def, hread] at h
  obtain ⟨mode, hstat⟩ := stat_of_write h
  have hdocument := isDocument_insert (readable_of_read hread) c
  rw [Json.FloatFree.rereadMembers hfree] at hdocument
  exact readJson_of_document hstat hdocument

/-- A deletion takes the credential out of the object. -/
theorem readJson_of_remove {removed : Bool} {v : Json}
    (hjson : tree.readJson path = .ok (.object members))
    (hfree : ∀ p ∈ members, Json.FloatFree p.2) (hkey : members.get? key = some v)
    (hv : v ≠ .null) (h : remove tree path = (tree', .ok removed)) :
    tree'.readJson path = .ok (.object (Members.others key members)) := by
  have hread := read_of_readJson hjson
  have hreadable := readable_of_read hread
  rw [remove_def, hread] at h
  dsimp only at h
  rw [hkey] at h
  split at h
  · next hnone => cases hnone
  · next hnull =>
    cases hnull
    exact absurd rfl hv
  · split at h
    · cases h
    · next hwrite =>
      cases h
      have hrest : ∀ p ∈ members.erase key, Json.FloatFree p.2 := fun p hp =>
        hfree p ((Members.erase_sublist key members).subset hp)
      have hafter := readJson_of_read (read_of_write hwrite (hreadable.erase key))
      rw [Json.FloatFree.rereadMembers hrest] at hafter
      cases hreadable with
      | object _ hkeys _ _ => rwa [Members.erase_eq_others hkeys] at hafter

end StoreFile

namespace CredentialStore

open StoreFile

/-- What becomes of an object in the store file.  A save puts the credential under its key, where
that stands or behind all others.  A deletion takes it out, and changes nothing where there is none
or a null.  The other members stay the same and in their order. -/
theorem saved_deleted_members (s : CredentialStore) (w : World) (members : Members)
    (hjson : w.files.readJson s.path = .ok (.object members))
    (hfree : ∀ p ∈ members, Json.FloatFree p.2) :
    (∀ c t, (s.save c).runOn w = (.ok (), t) → ∃ written : Members,
      t.files.readJson s.path = .ok (.object written) ∧
      written.get? key = some c.joined.toJson ∧
      written.keys = (if key ∈ members.keys then members.keys else members.keys ++ [key]) ∧
      Members.others key written = Members.others key members) ∧
    ∀ t, s.delete.runOn w = (.ok (), t) →
      match members.get? key with
      | none => t = w
      | some .null => t = w
      | some _ => t.files.readJson s.path = .ok (.object (Members.others key members)) := by
  constructor
  · intro c t h
    refine ⟨_, readJson_of_save hjson hfree (save_eq_ok h).1, ?_, Members.keys_insert _ _ _,
      Members.others_insert _ _ _⟩
    rw [Members.get?_insert, if_pos rfl]
  · intro t h
    have hread := read_of_readJson hjson
    split
    · next hkey =>
      rw [runOn_delete_of_vacant (.absent hread hkey)] at h
      cases h
      rfl
    · next hkey =>
      rw [runOn_delete_of_vacant (.null hread hkey)] at h
      cases h
      rfl
    · next v hnull hkey =>
      obtain ⟨removed, hremove⟩ := delete_eq_ok h
      exact readJson_of_remove hjson hfree hkey (fun hv => hnull hv) hremove

def sharedMembers (v : Json) : Members := [("a", .bool true), (key, v), ("b", .null)]

def sharedWorld (v : Json) : World :=
  fileWorld 0o644 (FileTree.jsonBytes (.object (sharedMembers v)))

theorem floatFree_sharedMembers {v : Json} (h : Json.FloatFree v) :
    ∀ p ∈ sharedMembers v, Json.FloatFree p.2 := by
  intro p hp
  simp only [sharedMembers, List.mem_cons, List.not_mem_nil, or_false] at hp
  rcases hp with rfl | rfl | rfl
  · exact .bool true
  · exact h
  · exact .null

theorem readJson_sharedWorld {v : Json} (hv : Json.Readable 1 v) (hfree : Json.FloatFree v) :
    (sharedWorld v).files.readJson "creds.json" = .ok (.object (sharedMembers v)) := by
  have hreadable : Json.Readable 0
      (Json.ofMembers [("a", .bool true), ("gcrOAuth2Token", v), ("b", .null)]) := by
    refine Json.readable_ofMembers (by decide) (by simp) fun p hp => ?_
    simp only [List.mem_cons, List.not_mem_nil, or_false] at hp
    rcases hp with rfl | rfl | rfl
    · exact .bool true
    · exact hv
    · exact .null
  have hname := FileName.encode_eq_ok starts_bare.fits.allowed
  have hstat : (sharedWorld v).files.stat "creds.json" =
      .ok (.file 0o644 (FileTree.jsonBytes (.object (sharedMembers v)))) := stat_fileWorld _ _
  have hread := FileTree.readJson_jsonBytes hname (FileTree.read_of_stat hstat) hreadable
  rw [hread]
  exact congrArg (Except.ok ∘ Json.object)
    (Json.FloatFree.rereadMembers (floatFree_sharedMembers hfree))

/-- Between the members of others a credential is saved or deleted. -/
theorem saved_deleted_members_shared :
    (∃ (t : World) (written : Members),
      (save ⟨"creds.json"⟩ {}).runOn (sharedWorld (.object [])) = (.ok (), t) ∧
      t.files.readJson "creds.json" = .ok (.object written) ∧
      written.get? key = some ({} : StoredCredential).toJson ∧
      written.keys = [Text.ofString "a", key, Text.ofString "b"]) ∧
    ∃ t : World, (delete ⟨"creds.json"⟩).runOn (sharedWorld (.object [])) = (.ok (), t) ∧
      t.files.readJson "creds.json" = .ok (.object [("a", .bool true), ("b", .null)]) := by
  have hempty : Json.FloatFree (.object []) := .object nofun
  have hreadable : Json.Readable 1 (.object []) :=
    .object (by decide) List.nodup_nil nofun nofun
  have hjson := readJson_sharedWorld hreadable hempty
  have hsave : ((save ⟨"creds.json"⟩ {}).runOn (sharedWorld (.object []))).1 = .ok () :=
    eq_ok_of_isOk (by decide +kernel)
  have hdelete : ((delete ⟨"creds.json"⟩).runOn (sharedWorld (.object []))).1 = .ok () :=
    eq_ok_of_isOk (by decide +kernel)
  have hmembers := saved_deleted_members ⟨"creds.json"⟩ (sharedWorld (.object []))
    (sharedMembers (.object [])) hjson (floatFree_sharedMembers hempty)
  obtain ⟨written, hwritten, hkey, hkeys, -⟩ := hmembers.1 {} _ (Prod.ext hsave rfl)
  rw [StoredCredential.storable_default.joined_eq_self] at hkey
  exact ⟨⟨_, written, Prod.ext hsave rfl, hwritten, hkey, hkeys⟩, _, Prod.ext hdelete rfl,
    hmembers.2 _ (Prod.ext hdelete rfl)⟩

/-- A null under the key of the credential is left there. -/
theorem delete_null :
    (delete ⟨"creds.json"⟩).runOn (sharedWorld .null) = (.ok (), sharedWorld .null) ∧
      (sharedWorld .null).files.readJson "creds.json" =
        .ok (.object [("a", .bool true), (key, .null), ("b", .null)]) := by
  have hjson := readJson_sharedWorld .null .null
  have hnull : (sharedMembers .null).get? key = some .null := rfl
  exact ⟨runOn_delete_of_vacant (.null (read_of_readJson hjson) hnull), hjson⟩

end CredentialStore

end CredentialHelper
