import CredentialHelper.Proofs.JsonString

/-!
# Joining the halves of surrogate pairs

The two halves of a surrogate pair, one behind the other, are written like the symbol that they are
the halves of.  `joined` is the text with that symbol in their place: it is written like the text
itself, and it is what is read back.
-/

namespace CredentialHelper

namespace Json

open Reader

/-- The text with every two halves of a surrogate pair joined. -/
def joined : Text → Text
  | a :: b :: rest =>
    if isHigh a.code && isLow b.code then joinPair a.code b.code :: joined rest
    else a :: joined (b :: rest)
  | t => t

theorem isLow_of_joined {t t' : Text} {b b' : Symbol} (h : joined (b :: t) = b' :: t')
    (hlow : isLow b.code = false) : isLow b'.code = false := by
  cases t with
  | nil =>
    cases h
    exact hlow
  | cons c rest =>
    rw [joined] at h
    split at h
    · next hpair =>
      obtain ⟨rfl, -⟩ := List.cons.inj h
      rw [Bool.and_eq_true] at hpair
      have hwhole := isSurrogate_joinPair hpair.1 hpair.2
      rw [← Bool.not_eq_true]
      intro hlow'
      rw [isSurrogate_of_isLow hlow'] at hwhole
      cases hwhole
    · obtain ⟨rfl, -⟩ := List.cons.inj h
      exact hlow

theorem joined_joined (t : Text) : Joined (joined t) := by
  fun_induction joined t with
  | case1 a b rest hpair ih =>
    rw [Bool.and_eq_true] at hpair
    exact joined_cons_of_char ih (isSurrogate_joinPair hpair.1 hpair.2)
  | case2 a b rest hnot ih =>
    refine joined_cons ih fun hhigh b' t' heq => isLow_of_joined heq ?_
    rw [hhigh, Bool.true_and, Bool.not_eq_true] at hnot
    exact hnot
  | case3 t hshort =>
    match t, hshort with
    | [], _ => exact List.isChain_nil
    | [a], _ => exact List.isChain_singleton a
    | a :: b :: rest, hshort => exact absurd rfl (hshort a b rest)

theorem joined_eq_self {t : Text} (h : Joined t) : joined t = t := by
  fun_induction joined t with
  | case1 a b rest hpair ih =>
    rw [Bool.and_eq_true] at hpair
    exact absurd hpair (List.isChain_cons_cons.1 h).1
  | case2 a b rest hnot ih => rw [ih h.tail]
  | case3 t hshort => rfl

theorem joined_eq_nil_iff {t : Text} : joined t = [] ↔ t = [] := by
  match t with
  | [] => exact Iff.rfl
  | [a] => simp [joined]
  | a :: b :: rest =>
    rw [joined]
    split <;> simp

/-- The two halves of a pair are written like the symbol that they are the halves of. -/
theorem symbol_joinPair {a b : Symbol} (hhigh : isHigh a.code = true) (hlow : isLow b.code = true) :
    Writer.symbol (joinPair a.code b.code) = Writer.symbol a ++ Writer.symbol b := by
  simp only [isHigh, isLow, Bool.and_eq_true, decide_eq_true_eq] at hhigh hlow
  have hcode : (joinPair a.code b.code).code =
      0x10000 + (a.code - 0xD800) * 0x400 + (b.code - 0xDC00) := by
    rw [joinPair, Symbol.code_ofCode (by omega)]
  have hunit (s : Symbol) (hlower : 0xD800 ≤ s.code) (hupper : s.code < 0xE000) :
      Writer.symbol s = Writer.codeUnit s.code := by
    rw [Writer.symbol]
    iterate 8 rw [if_neg (by omega)]
    rw [if_pos (by omega)]
  rw [hunit a (by omega) (by omega), hunit b (by omega) (by omega), Writer.symbol]
  generalize (joinPair a.code b.code).code = n at hcode
  have hfirst : 0xD800 + (n - 0x10000) / 0x400 = a.code := by omega
  have hsecond : 0xDC00 + (n - 0x10000) % 0x400 = b.code := by omega
  iterate 9 rw [if_neg (by omega)]
  rw [hfirst, hsecond]

/-- A text is written like the text in which its pairs are joined. -/
theorem string_joined (t : Text) : Writer.string (joined t) = Writer.string t := by
  have hbody : (joined t).flatMap Writer.symbol = t.flatMap Writer.symbol := by
    fun_induction joined t with
    | case1 a b rest hpair ih =>
      rw [Bool.and_eq_true] at hpair
      rw [List.flatMap_cons, List.flatMap_cons, List.flatMap_cons, ih,
        symbol_joinPair hpair.1 hpair.2, List.append_assoc]
    | case2 a b rest hnot ih => rw [List.flatMap_cons, ih, List.flatMap_cons (x := a)]
    | case3 t hshort => rfl
  rw [Writer.string, Writer.string, hbody]

/-- A member that is put into an object counts by how it is written only. -/
theorem value_insert_congr {key : Text} {v v' : Json} {layout : Layout}
    (h : ∀ level, Writer.value layout level v = Writer.value layout level v') (level : Nat)
    (members : Members) :
    Writer.value layout level (.object (members.insert key v)) =
      Writer.value layout level (.object (members.insert key v')) := by
  have hrest (level : Nat) (members : Members) :
      Writer.members layout level (members.insert key v) =
        Writer.members layout level (members.insert key v') := by
    induction members with
    | nil => simp only [Members.insert, Writer.members, h]
    | cons p rest ih =>
      rw [Members.insert, Members.insert]
      by_cases hk : p.1 = key
      · rw [if_pos hk, if_pos hk, Writer.members, Writer.members, h]
      · rw [if_neg hk, if_neg hk, Writer.members, Writer.members, ih]
  cases members with
  | nil => simp only [Members.insert, Writer.value, h]
  | cons p rest =>
    rw [Members.insert, Members.insert]
    by_cases hk : p.1 = key
    · rw [if_pos hk, if_pos hk, Writer.value, Writer.value, h]
    · rw [if_neg hk, if_neg hk, Writer.value, Writer.value, hrest]

end Json

end CredentialHelper
