import CredentialHelper.Proofs.JoinedText
import CredentialHelper.Proofs.StoreFile
import CredentialHelper.Proofs.TwoRuns

/-!
# Credentials that differ in their access token

Of an access token only whether it is empty is looked at (`AsEmpty`).  Two objects are alike if they
are equal but for what stands under one key (`Members.AlikeBut`); so are two credentials that differ
in their access tokens, two stores with such credentials, and the documents that hold them.
-/

namespace CredentialHelper

/-- The texts cannot be told apart by whether they are empty. -/
def AsEmpty (t t' : Text) : Prop := t = [] ↔ t' = []

instance (t t' : Text) : Decidable (AsEmpty t t') :=
  inferInstanceAs (Decidable (t = [] ↔ t' = []))

theorem AsEmpty.refl (t : Text) : AsEmpty t t := Iff.rfl

theorem AsEmpty.isEmpty {t t' : Text} (h : AsEmpty t t') : t.isEmpty = t'.isEmpty := by
  rw [Bool.eq_iff_iff, List.isEmpty_iff, List.isEmpty_iff]
  exact h

theorem AsEmpty.joined {t t' : Text} (h : AsEmpty t t') :
    AsEmpty (Json.joined t) (Json.joined t') := by
  rw [AsEmpty, Json.joined_eq_nil_iff, Json.joined_eq_nil_iff]
  exact h

/-! ## Objects that are alike but under one key -/

namespace Members

variable {key : Text} {R : Json → Json → Prop} {members members' : Members}

/-- The objects have the same members, but what stands under `key` may differ by `R`. -/
def AlikeBut (key : Text) (R : Json → Json → Prop) : Members → Members → Prop :=
  List.Forall₂ fun p p' => p.1 = p'.1 ∧ (p.2 = p'.2 ∨ p.1 = key ∧ R p.2 p'.2)

theorem AlikeBut.refl (members : Members) : AlikeBut key R members members := by
  induction members with
  | nil => exact .nil
  | cons p rest ih => exact .cons ⟨rfl, .inl rfl⟩ ih

theorem AlikeBut.head {v v' : Json} (h : R v v') (rest : Members) :
    AlikeBut key R ((key, v) :: rest) ((key, v') :: rest) :=
  .cons ⟨rfl, .inr ⟨rfl, h⟩⟩ (AlikeBut.refl rest)

theorem AlikeBut.get? (h : AlikeBut key R members members') :
    Option.Rel (fun v v' => v = v' ∨ R v v') (members.get? key) (members'.get? key) := by
  induction h with
  | nil => exact .none
  | @cons p p' rest rest' hp _ ih =>
    rw [Members.get?, Members.get?, ← hp.1]
    by_cases hk : p.1 = key
    · rw [if_pos hk, if_pos hk]
      exact .some (hp.2.imp_right And.right)
    · rw [if_neg hk, if_neg hk]
      exact ih

theorem AlikeBut.get?_of_ne (h : AlikeBut key R members members') {k : Text} (hne : k ≠ key) :
    members.get? k = members'.get? k := by
  induction h with
  | nil => rfl
  | @cons p p' rest rest' hp _ ih =>
    rw [Members.get?, Members.get?, ← hp.1]
    by_cases hk : p.1 = k
    · have hvalue : p.2 = p'.2 := hp.2.resolve_right fun hkey => hne (hk.symm.trans hkey.1)
      rw [if_pos hk, if_pos hk, hvalue]
    · rw [if_neg hk, if_neg hk]
      exact ih

theorem AlikeBut.insert (h : AlikeBut key R members members') {v v' : Json} (hv : R v v') :
    AlikeBut key R (members.insert key v) (members'.insert key v') := by
  induction h with
  | nil => exact .cons ⟨rfl, .inr ⟨rfl, hv⟩⟩ .nil
  | @cons p p' rest rest' hp hrest ih =>
    rw [Members.insert, Members.insert, ← hp.1]
    by_cases hk : p.1 = key
    · rw [if_pos hk, if_pos hk]
      exact .cons ⟨rfl, .inr ⟨hk, hv⟩⟩ hrest
    · rw [if_neg hk, if_neg hk]
      exact .cons ⟨rfl, hp.2⟩ ih

theorem AlikeBut.reread (h : AlikeBut key R members members')
    (hR : ∀ v v', R v v' → R (Json.reread v) (Json.reread v')) :
    AlikeBut key R (Json.rereadMembers members) (Json.rereadMembers members') := by
  rw [Json.rereadMembers_eq_map, Json.rereadMembers_eq_map, AlikeBut, List.forall₂_map_left_iff,
    List.forall₂_map_right_iff]
  refine List.Forall₂.imp (fun p p' hp => ⟨hp.1, ?_⟩) h
  exact hp.2.imp (congrArg Json.reread) fun hkey => ⟨hkey.1, hR _ _ hkey.2⟩

end Members

/-! ## Tokens in objects -/

def TokenValues (v v' : Json) : Prop := ∃ t t', v = .string t ∧ v' = .string t' ∧ AsEmpty t t'

abbrev Members.TokensAlike : Members → Members → Prop :=
  Members.AlikeBut (Text.ofString "access_token") TokenValues

theorem Members.TokensAlike.reread {members members' : Members}
    (h : members.TokensAlike members') :
    Members.TokensAlike (Json.rereadMembers members) (Json.rereadMembers members') := by
  refine AlikeBut.reread h fun v v' hv => ?_
  obtain ⟨t, t', rfl, rfl, ht⟩ := hv
  rw [Json.reread, Json.reread]
  exact ⟨t, t', rfl, rfl, ht⟩

def TokenHolders (v v' : Json) : Prop :=
  ∃ members members', v = .object members ∧ v' = .object members' ∧
    Members.TokensAlike members members'

namespace StoredCredential

open Validation

/-- Two credentials that are the same but for their access tokens. -/
def Alike (c c' : StoredCredential) : Prop :=
  AsEmpty c.accessToken c'.accessToken ∧ c' = { c with accessToken := c'.accessToken }

theorem Alike.refl (c : StoredCredential) : c.Alike c := ⟨AsEmpty.refl _, rfl⟩

theorem optional_of_ne {α : Type} {members members' : Members} (h : members.TokensAlike members')
    (name : String) (hne : name ≠ "access_token") (read : Json → Except Rule α) (default : α) :
    Validation.optional name read default members =
      Validation.optional name read default members' := by
  rw [Validation.optional, h.get?_of_ne fun heq => hne (Text.ofString_injective heq),
    Validation.optional]

theorem optional_accessToken {members members' : Members} (h : members.TokensAlike members') :
    Agree AsEmpty (Validation.optional "access_token" readText [] members)
      (Validation.optional "access_token" readText [] members') := by
  have hget := h.get?
  rw [Validation.optional, Validation.optional]
  generalize members.get? _ = v, members'.get? _ = v' at hget
  cases hget with
  | none => exact .ok (AsEmpty.refl _)
  | some hvalue =>
    rcases hvalue with rfl | ⟨t, t', rfl, rfl, ht⟩
    · exact Agree.refl AsEmpty.refl _
    · exact .ok ht

theorem ofMembers_alike {members members' : Members} (h : members.TokensAlike members') :
    Agree Alike (ofMembers members) (ofMembers members') := by
  have htoken := optional_accessToken h
  rw [ofMembers, ofMembers, optional_of_ne h "refresh_token" (by decide),
    optional_of_ne h "token_expiry" (by decide), optional_of_ne h "client_id" (by decide),
    optional_of_ne h "client_secret" (by decide), optional_of_ne h "token_uri" (by decide)]
  generalize Validation.optional "access_token" readText [] members = r,
    Validation.optional "access_token" readText [] members' = r' at htoken
  cases htoken with
  | error issues => exact Agree.refl Alike.refl _
  | @ok t t' ht =>
    -- the first field that is refused decides, and none of the others is the access token
    rcases Validation.optional "refresh_token" readText [] members' with _ | _
    · exact .error _
    rcases Validation.optional "token_expiry" readOptionalMoment none members' with _ | _
    · exact .error _
    rcases Validation.optional "client_id" readText [] members' with _ | _
    · exact .error _
    rcases Validation.optional "client_secret" readText [] members' with _ | _
    · exact .error _
    rcases Validation.optional "token_uri" readText Default.tokenUri members' with _ | _
    · exact .error _
    · exact .ok ⟨ht, rfl⟩

theorem ofJson_alike {v v' : Json} (h : v = v' ∨ TokenHolders v v') :
    Agree Alike (ofJson v) (ofJson v') := by
  rcases h with rfl | ⟨members, members', rfl, rfl, hmembers⟩
  · exact Agree.refl Alike.refl _
  · exact ofMembers_alike hmembers

/-! ## Credentials that are written -/

/-- The credential with the pairs joined in its texts. -/
def joined (c : StoredCredential) : StoredCredential :=
  ⟨Json.joined c.accessToken, Json.joined c.refreshToken, c.expiry, Json.joined c.clientId,
    Json.joined c.clientSecret, Json.joined c.tokenUri⟩

/-- A credential is written like the one in whose texts the pairs are joined. -/
theorem value_toJson_joined (c : StoredCredential) (layout : Json.Layout) (level : Nat) :
    Json.Writer.value layout level c.joined.toJson = Json.Writer.value layout level c.toJson := by
  simp only [toJson, joined, Json.ofMembers, List.map_cons, List.map_nil, Json.Writer.value,
    Json.Writer.members, Json.string_joined]

theorem readable_joined (c : StoredCredential) {depth : Nat} (hdepth : depth < Json.maxDepth) :
    Json.Readable depth c.joined.toJson :=
  readable_toJson_of_joined (Json.joined_joined _) (Json.joined_joined _) (Json.joined_joined _)
    (Json.joined_joined _) (Json.joined_joined _) hdepth

theorem Alike.joined {c c' : StoredCredential} (h : c.Alike c') :
    TokenHolders c.joined.toJson c'.joined.toJson := by
  refine ⟨_, _, rfl, rfl, ?_⟩
  rw [h.2]
  exact Members.AlikeBut.head ⟨_, _, rfl, rfl, h.1.joined⟩ _

end StoredCredential

/-! ## Documents of stores -/

namespace StoreFile

/-- Two stores that are the same but for the access tokens of their credentials. -/
abbrev Alike : Members → Members → Prop := Members.AlikeBut key TokenHolders

theorem credential_alike (path : Text) {members members' : Members} (h : Alike members members') :
    Agree StoredCredential.Alike (credential path members) (credential path members') := by
  have hget := h.get?
  rw [credential, credential]
  generalize members.get? key = v, members'.get? key = v' at hget
  cases hget with
  | none => exact .error _
  | @some v v' hvalue =>
    have hcredential := StoredCredential.ofJson_alike hvalue
    dsimp only
    generalize StoredCredential.ofJson v = r, StoredCredential.ofJson v' = r' at hcredential
    cases hcredential with
    | ok hc => exact .ok hc
    | error report => exact .error _

def IsDocument (bytes : Bytes) (v : Json) : Prop :=
  ∃ t, Utf8.decode bytes = .ok t ∧ Json.parse (unifyLines t) = .ok v

/-- Two contents of a file that are the same, or documents of stores that are the same but for the
access tokens of their credentials. -/
inductive AlikeContents : Bytes → Bytes → Prop
  | same (bytes : Bytes) : AlikeContents bytes bytes
  | stores {bytes bytes' : Bytes} {members members' : Members}
      (h : IsDocument bytes (.object members)) (h' : IsDocument bytes' (.object members'))
      (alike : Alike members members') :
    AlikeContents bytes bytes'

theorem isDocument_insert {members : Members} (h : Json.Readable 0 (.object members))
    (c : StoredCredential) :
    IsDocument (FileTree.jsonBytes (.object (members.insert key c.toJson)))
      (.object (Members.insert key c.joined.toJson (Json.rereadMembers members))) := by
  have hreadable : Json.Readable 0 (.object (members.insert key c.joined.toJson)) :=
    h.insert (Json.joined_ofString _) (c.readable_joined (by decide))
  obtain ⟨t, ht, hparse⟩ := FileTree.exists_parse_jsonBytes hreadable
  have hwritten : FileTree.jsonBytes (.object (members.insert key c.joined.toJson)) =
      FileTree.jsonBytes (.object (members.insert key c.toJson)) := by
    rw [FileTree.jsonBytes, Json.render, Json.value_insert_congr (c.value_toJson_joined .block)]
    rfl
  rw [Json.reread, Json.rereadMembers_insert, (StoredCredential.floatFree_toJson _).reread]
    at hparse
  exact ⟨t, hwritten ▸ ht, hparse⟩

/-- Stores that are alike stay so when credentials are put into them that are alike. -/
theorem alikeContents_insert {members members' : Members} (h : Alike members members')
    (hreadable : Json.Readable 0 (.object members))
    (hreadable' : Json.Readable 0 (.object members'))
    {c c' : StoredCredential} (hc : c.Alike c') :
    AlikeContents (FileTree.jsonBytes (.object (members.insert key c.toJson)))
      (FileTree.jsonBytes (.object (members'.insert key c'.toJson))) := by
  refine .stores (isDocument_insert hreadable c) (isDocument_insert hreadable' c') ?_
  refine (Members.AlikeBut.reread h fun v v' hv => ?_).insert hc.joined
  obtain ⟨m, m', rfl, rfl, hm⟩ := hv
  rw [Json.reread, Json.reread]
  exact ⟨_, _, rfl, rfl, hm.reread⟩

end StoreFile

end CredentialHelper
