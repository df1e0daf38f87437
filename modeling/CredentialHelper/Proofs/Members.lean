import CredentialHelper.Json.Value
import Mathlib.Data.List.Induction

/-!
# Members of an object

Putting a value under a key and taking the key out again do not disturb the other members, and keep
the keys different from each other.
-/

namespace CredentialHelper.Members

variable {key : Text} {v : Json} {members : Members}

theorem insert_of_not_mem (h : key ∉ members.keys) :
    members.insert key v = members ++ [(key, v)] := by
  induction members with
  | nil => rfl
  | cons p rest ih =>
    obtain ⟨k, u⟩ := p
    rw [Members.keys, List.map_cons, List.mem_cons, not_or] at h
    rw [Members.insert, if_neg fun hk => h.1 hk.symm, ih h.2, List.cons_append]

theorem mem_insert {p : Text × Json} (h : p ∈ members.insert key v) :
    p = (key, v) ∨ p ∈ members := by
  induction members with
  | nil => exact .inl (List.mem_singleton.1 h)
  | cons q rest ih =>
    rw [Members.insert] at h
    by_cases hk : q.1 = key
    · rw [if_pos hk, hk] at h
      rcases List.mem_cons.1 h with rfl | hrest
      · exact .inl rfl
      · exact .inr (List.mem_cons_of_mem _ hrest)
    · rw [if_neg hk] at h
      rcases List.mem_cons.1 h with rfl | hrest
      · exact .inr (List.mem_cons_self ..)
      · exact (ih hrest).imp_right (List.mem_cons_of_mem _)

theorem erase_sublist (key : Text) (members : Members) :
    List.Sublist (members.erase key) members := by
  induction members with
  | nil => exact List.Sublist.refl _
  | cons q rest ih =>
    rw [Members.erase]
    by_cases hk : q.1 = key
    · rw [if_pos hk]
      exact List.sublist_cons_self _ _
    · rw [if_neg hk]
      exact ih.cons_cons _

theorem nodup_keys_insert (h : members.keys.Nodup) : (members.insert key v).keys.Nodup := by
  rw [Members.keys_insert]
  by_cases hk : key ∈ members.keys
  · rwa [if_pos hk]
  · rw [if_neg hk]
    refine List.nodup_append.2
      ⟨h, List.nodup_cons.2 ⟨List.not_mem_nil, List.nodup_nil⟩, fun k hmem k' hk' heq => ?_⟩
    rw [List.mem_singleton.1 hk'] at heq
    exact hk (heq ▸ hmem)

theorem get?_eq_none_iff : members.get? key = none ↔ key ∉ members.keys := by
  induction members with
  | nil => simp [Members.get?, Members.keys]
  | cons p rest ih =>
    rw [Members.get?]
    by_cases hk : p.1 = key
    · simp [hk, Members.keys]
    · have hk' : key ≠ p.1 := fun heq => hk heq.symm
      rw [if_neg hk, ih]
      simp [Members.keys, hk']

theorem erase_of_not_mem (h : key ∉ members.keys) : members.erase key = members := by
  induction members with
  | nil => rfl
  | cons p rest ih =>
    rw [Members.keys, List.map_cons, List.mem_cons, not_or] at h
    rw [Members.erase, if_neg fun hk => h.1 hk.symm, ih h.2]

theorem not_mem_keys_erase (h : members.keys.Nodup) : key ∉ (members.erase key).keys := by
  induction members with
  | nil => exact List.not_mem_nil
  | cons p rest ih =>
    rw [Members.keys, List.map_cons, List.nodup_cons] at h
    rw [Members.erase]
    by_cases hk : p.1 = key
    · rw [if_pos hk]
      exact hk ▸ h.1
    · rw [if_neg hk, Members.keys, List.map_cons, List.mem_cons, not_or]
      exact ⟨fun heq => hk heq.symm, ih h.2⟩

theorem erase_insert (key : Text) (v : Json) (members : Members) :
    (members.insert key v).erase key = members.erase key := by
  induction members with
  | nil => simp [Members.insert, Members.erase]
  | cons p rest ih =>
    rw [Members.insert, Members.erase]
    by_cases hk : p.1 = key
    · rw [if_pos hk, if_pos hk, Members.erase, if_pos hk]
    · rw [if_neg hk, if_neg hk, Members.erase, if_neg hk, ih]

def others (key : Text) (members : Members) : Members := members.filter fun p => p.1 ≠ key

theorem others_cons_self (key : Text) (v : Json) (rest : Members) :
    others key ((key, v) :: rest) = others key rest :=
  List.filter_cons_of_neg (by simp)

theorem others_cons_of_ne {p : Text × Json} (h : p.1 ≠ key) (rest : Members) :
    others key (p :: rest) = p :: others key rest :=
  List.filter_cons_of_pos (by simpa using h)

theorem others_insert (key : Text) (v : Json) (members : Members) :
    others key (members.insert key v) = others key members := by
  induction members with
  | nil => exact others_cons_self key v []
  | cons p rest ih =>
    obtain ⟨k, u⟩ := p
    rw [Members.insert]
    by_cases hk : k = key
    · rw [if_pos hk, hk, others_cons_self, others_cons_self]
    · rw [if_neg hk, others_cons_of_ne hk, others_cons_of_ne hk, ih]

theorem others_of_not_mem (h : key ∉ members.keys) : others key members = members := by
  refine List.filter_eq_self.2 fun p hp => ?_
  simp only [ne_eq, decide_not, Bool.not_eq_true', decide_eq_false_iff_not]
  rintro rfl
  exact h (List.mem_map_of_mem hp)

/-- Among different keys, taking one out leaves the members under the others. -/
theorem erase_eq_others (h : members.keys.Nodup) : members.erase key = others key members := by
  induction members with
  | nil => rfl
  | cons p rest ih =>
    obtain ⟨k, u⟩ := p
    rw [Members.keys, List.map_cons, List.nodup_cons] at h
    rw [Members.erase]
    by_cases hk : k = key
    · rw [if_pos hk, ← hk, others_cons_self]
      exact (others_of_not_mem h.1).symm
    · rw [if_neg hk, others_cons_of_ne hk, ih h.2]

/-! ## Members that replace each other -/

theorem foldl_insert_of_nodup {pairs read : Members} (h : (read.keys ++ pairs.keys).Nodup) :
    pairs.foldl (fun ms p => Members.insert p.1 p.2 ms) read = read ++ pairs := by
  induction pairs generalizing read with
  | nil => exact (List.append_nil read).symm
  | cons p rest ih =>
    have hnew : p.1 ∉ read.keys := fun hmem =>
      (List.nodup_append.1 h).2.2 p.1 hmem p.1 (List.mem_cons_self ..) rfl
    have hkeys : (Members.keys (read ++ [p]) ++ Members.keys rest).Nodup := by
      simpa [Members.keys] using h
    rw [List.foldl_cons, insert_of_not_mem hnew, ih hkeys, List.append_assoc]
    rfl

theorem ofPairs_of_nodup {pairs : Members} (h : pairs.keys.Nodup) : ofPairs pairs = pairs :=
  foldl_insert_of_nodup h

theorem get?_ofPairs (key : Text) (pairs : List (Text × Json)) :
    (ofPairs pairs).get? key = Members.get? key pairs.reverse := by
  induction pairs using List.reverseRecOn with
  | nil => rfl
  | append_singleton pairs p ih =>
    rw [ofPairs, List.foldl_append, ← ofPairs, List.foldl_cons, List.foldl_nil, get?_insert,
      List.reverse_append, List.reverse_singleton, List.singleton_append, Members.get?, ih]

end CredentialHelper.Members
