import CredentialHelper.Proofs.JsonReadable
import CredentialHelper.Proofs.MomentText
import CredentialHelper.Credential.Stored

/-!
# Stored credentials in a document

A credential is read back from its JSON value, and that value can be written and read back: its
texts hold no split pairs and its expiry is written with whole minutes.
-/

namespace CredentialHelper

namespace StoredCredential

open Json Validation

/-- A credential that is read back from its JSON value in a document: no split pairs in its texts,
and whole minutes in its offset. -/
structure Storable (c : StoredCredential) : Prop where
  accessToken : Joined c.accessToken
  refreshToken : Joined c.refreshToken
  clientId : Joined c.clientId
  clientSecret : Joined c.clientSecret
  tokenUri : Joined c.tokenUri
  expiry : ∀ m ∈ c.expiry, ∀ o ∈ m.offset, MomentReader.WholeMinutes o

theorem storable_default : ({} : StoredCredential).Storable :=
  ⟨joined_ofString "", joined_ofString "", joined_ofString "", joined_ofString "",
    joined_ofString _, nofun⟩

theorem readOptionalMoment_expiryJson {expiry : Option Moment}
    (h : ∀ m ∈ expiry, ∀ o ∈ m.offset, MomentReader.WholeMinutes o) :
    readOptionalMoment (Token.expiryJson expiry) = .ok expiry := by
  cases expiry with
  | none => rfl
  | some m =>
    rw [Token.expiryJson, Json.ofString, readOptionalMoment]
    · rw [readMoment, Text.toString?_ofString]
      dsimp only
      rw [MomentReader.ofString_stamp (h m rfl)]
      rfl
    · nofun

/-- A credential is read back from its JSON value. -/
theorem ofJson_toJson {c : StoredCredential} (h : c.Storable) : ofJson c.toJson = .ok c := by
  rw [toJson, Json.ofMembers, ofJson, ofMembers]
  simp [Validation.optional, Members.get?, Text.ofString_eq_iff, field, readText,
    readOptionalMoment_expiryJson h.expiry]

theorem floatFree_expiryJson (expiry : Option Moment) : FloatFree (Token.expiryJson expiry) := by
  cases expiry with
  | none => exact .null
  | some m => exact .string _

theorem floatFree_toJson (c : StoredCredential) : FloatFree c.toJson := by
  refine floatFree_ofMembers fun p hp => ?_
  simp only [List.mem_cons, List.not_mem_nil, or_false] at hp
  rcases hp with rfl | rfl | rfl | rfl | rfl | rfl
  · exact .string _
  · exact .string _
  · exact floatFree_expiryJson _
  · exact .string _
  · exact .string _
  · exact .string _

theorem readable_expiryJson (expiry : Option Moment) {depth : Nat} :
    Readable depth (Token.expiryJson expiry) := by
  cases expiry with
  | none => exact .null
  | some m => exact .string (joined_ofString _)

theorem readable_toJson_of_joined {c : StoredCredential} (haccessToken : Joined c.accessToken)
    (hrefreshToken : Joined c.refreshToken) (hclientId : Joined c.clientId)
    (hclientSecret : Joined c.clientSecret) (htokenUri : Joined c.tokenUri) {depth : Nat}
    (hdepth : depth < maxDepth) : Readable depth c.toJson := by
  refine readable_ofMembers hdepth (by simp) fun p hp => ?_
  simp only [List.mem_cons, List.not_mem_nil, or_false] at hp
  rcases hp with rfl | rfl | rfl | rfl | rfl | rfl
  · exact .string haccessToken
  · exact .string hrefreshToken
  · exact readable_expiryJson _
  · exact .string hclientId
  · exact .string hclientSecret
  · exact .string htokenUri

theorem readable_toJson {c : StoredCredential} (h : c.Storable) {depth : Nat}
    (hdepth : depth < maxDepth) : Readable depth c.toJson :=
  readable_toJson_of_joined h.accessToken h.refreshToken h.clientId h.clientSecret h.tokenUri
    hdepth

end StoredCredential

end CredentialHelper
