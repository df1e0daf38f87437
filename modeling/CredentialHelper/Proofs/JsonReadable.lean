import CredentialHelper.Proofs.JsonDocument
import Mathlib.Data.List.TakeWhile

/-!
# What is read can be written and read back

`Readable` holds of every value that a document of characters stands for, and it stays true when
members are put into an object or taken out of it. The three readers call each other with less
fuel, so the induction in `soundReaders` is on the fuel that they share.
-/

namespace CredentialHelper

namespace Json

open Reader

/-! ## What is left behind a scalar -/

theorem suffix_of_word? {word : String} {t rest : Text} (h : word? word t = some rest) :
    rest <:+ t := ⟨Text.ofString word, (word?_eq_some h).symm⟩

theorem suffix_digits {t ds rest : Text} (h : digits t = (ds, rest)) : rest <:+ t := by
  cases h
  exact List.dropWhile_suffix _

theorem suffix_integerDigits (t : Text) : (integerDigits t).2 <:+ t := by
  rw [integerDigits.eq_def]
  split
  · exact List.suffix_cons _ _
  · exact List.dropWhile_suffix _

theorem suffix_fraction (t : Text) : (fraction t).2 <:+ t := by
  rw [fraction.eq_def]
  split
  · split
    · exact List.suffix_rfl
    · next heq => exact (suffix_digits heq).trans (List.suffix_cons _ _)
  · exact List.suffix_rfl

theorem suffix_exponent (t : Text) : (exponent t).2 <:+ t := by
  rw [exponent.eq_def]
  split
  · next e rest =>
    split
    · dsimp only
      split
      · exact List.suffix_rfl
      · next heq =>
        refine ((suffix_digits heq).trans ?_).trans (List.suffix_cons _ _)
        split
        · exact List.suffix_cons _ _
        · exact List.suffix_cons _ _
        · exact List.suffix_rfl
    · exact List.suffix_rfl
  · exact List.suffix_rfl

theorem isDigit_of_mem_integerDigits {t : Text} {s : Symbol} (h : s ∈ (integerDigits t).1) :
    isDigit s = true := by
  rw [integerDigits.eq_def] at h
  split at h
  · rw [List.mem_singleton.1 h]
    rfl
  · exact List.mem_takeWhile_imp h

theorem digit_le {s : Symbol} (h : isDigit s = true) : s.code - 48 ≤ 9 := by
  cases s with
  | surrogate n => cases h
  | char c =>
    simp only [isDigit, Char.isDigit, Bool.and_eq_true, decide_eq_true_eq,
      UInt32.le_iff_toNat_le] at h
    have : c.val.toNat ≤ 57 := h.2
    show c.val.toNat - 48 ≤ 9
    omega

theorem foldl_digits_lt {ds : Text} (h : ∀ s ∈ ds, isDigit s = true) (n : Nat) :
    ds.foldl (fun n s => n * 10 + (s.code - 48)) n < (n + 1) * 10 ^ ds.length := by
  induction ds generalizing n with
  | nil => simp
  | cons s ds ih =>
    have hs := digit_le (h s (List.mem_cons_self ..))
    calc (s :: ds).foldl (fun n s => n * 10 + (s.code - 48)) n
        < (n * 10 + (s.code - 48) + 1) * 10 ^ ds.length :=
          ih (fun s hs => h s (List.mem_cons_of_mem _ hs)) _
      _ ≤ ((n + 1) * 10) * 10 ^ ds.length := Nat.mul_le_mul_right _ (by omega)
      _ = (n + 1) * 10 ^ (s :: ds).length := by
          rw [List.length_cons, Nat.pow_succ, Nat.mul_assoc, Nat.mul_comm 10]

theorem short_digitsValue {ds : Text} (h : ∀ s ∈ ds, isDigit s = true)
    (hlength : ds.length ≤ maxDigits)
    (negative : Bool) :
    Short (if negative then -(digitsValue ds : Int) else digitsValue ds) := by
  have hlt : digitsValue ds < 10 ^ maxDigits := by
    refine Nat.lt_of_lt_of_le (foldl_digits_lt h 0) ?_
    rw [Nat.zero_add, Nat.one_mul]
    exact Nat.pow_le_pow_right (by decide) hlength
  have habs : (if negative then -(digitsValue ds : Int) else digitsValue ds).natAbs =
      digitsValue ds := by
    cases negative <;> simp
  rw [Short, habs]
  exact (Nat.length_toDigits_le_iff (by decide) (by decide)).2 hlt

theorem number_eq_ok {whole : Nat} {negative : Bool} {t rest : Text} {v : Json}
    (h : number whole negative t = .ok (v, rest)) :
    rest <:+ t ∧ ((∃ n, v = .int n ∧ Short n) ∨ ∃ x, v = .float x) := by
  have hinteger := suffix_integerDigits t
  have hdigits (s : Symbol) : s ∈ (integerDigits t).1 → isDigit s = true :=
    isDigit_of_mem_integerDigits
  have hrest := ((suffix_exponent (fraction (integerDigits t).2).2).trans
    (suffix_fraction (integerDigits t).2)).trans hinteger
  rw [number.eq_def] at h
  dsimp only at h
  split at h
  · cases h
  · split at h
    · split at h
      · cases h
      · next hlength =>
        cases h
        exact ⟨hrest, .inl ⟨_, rfl, short_digitsValue hdigits (Nat.not_lt.1 hlength) negative⟩⟩
    · cases h
      exact ⟨hrest, .inr ⟨_, rfl⟩⟩

theorem readable_of_scalar {t rest : Text} {v : Json} (h : scalar t = .ok (v, rest)) (depth : Nat) :
    rest <:+ t ∧ Readable depth v := by
  have hnumber {whole : Nat} {negative : Bool} {t' : Text}
      (h : number whole negative t' = .ok (v, rest)) : rest <:+ t' ∧ Readable depth v := by
    obtain ⟨hrest, ⟨n, rfl, hn⟩ | ⟨x, rfl⟩⟩ := number_eq_ok h
    · exact ⟨hrest, .int hn⟩
    · exact ⟨hrest, .float x⟩
  rw [scalar.eq_def] at h
  split at h
  · cases h
    exact ⟨suffix_of_word? ‹word? "null" t = some _›, .null⟩
  · cases h
    exact ⟨suffix_of_word? ‹word? "true" t = some _›, .bool true⟩
  · cases h
    exact ⟨suffix_of_word? ‹word? "false" t = some _›, .bool false⟩
  · cases h
    exact ⟨suffix_of_word? ‹word? "NaN" t = some _›, .float _⟩
  · cases h
    exact ⟨suffix_of_word? ‹word? "Infinity" t = some _›, .float _⟩
  · cases h
    exact ⟨suffix_of_word? ‹word? "-Infinity" t = some _›, .float _⟩
  · split at h
    · obtain ⟨hrest, hv⟩ := hnumber h
      exact ⟨hrest.trans (List.suffix_cons _ _), hv⟩
    · exact hnumber h

theorem suffix_of_drop {t rest : Text} (n : Nat) (h : rest <:+ t.drop n) : rest <:+ t :=
  h.trans (List.drop_suffix n t)

theorem suffix_of_stringBody {opening : Nat} {t s rest : Text}
    (h : stringBody opening t = .ok (s, rest)) : rest <:+ t := by
  fun_induction stringBody opening t generalizing s
  case case2 =>
    cases h
    exact List.suffix_cons _ _
  case case6 ih =>
    obtain ⟨_, -, hrest⟩ := prepend_eq_ok_iff.1 h
    exact suffix_of_drop 12 (ih hrest)
  case case7 ih =>
    obtain ⟨_, -, hrest⟩ := prepend_eq_ok_iff.1 h
    exact suffix_of_drop 6 (ih hrest)
  case case8 ih =>
    obtain ⟨_, -, hrest⟩ := prepend_eq_ok_iff.1 h
    exact suffix_of_drop 6 (ih hrest)
  case case9 ih =>
    obtain ⟨_, -, hrest⟩ := prepend_eq_ok_iff.1 h
    exact suffix_of_drop 6 (ih hrest)
  case case10 ih =>
    obtain ⟨_, -, hrest⟩ := prepend_eq_ok_iff.1 h
    exact suffix_of_drop 6 (ih hrest)
  case case12 ih =>
    obtain ⟨_, -, hrest⟩ := prepend_eq_ok_iff.1 h
    exact suffix_of_drop 2 (ih hrest)
  case case15 ih =>
    obtain ⟨_, -, hrest⟩ := prepend_eq_ok_iff.1 h
    exact suffix_of_drop 1 (ih hrest)
  all_goals cases h

theorem Whole.suffix {t t' : Text} (h : Whole t) (hsuffix : t' <:+ t) : Whole t' :=
  fun s hs => h s (hsuffix.subset hs)

theorem suffix_skipSpace (t : Text) : skipSpace t <:+ t := List.dropWhile_suffix _

/-! ## Arrays and objects -/

theorem readable_nil : Readable 0 (.object []) :=
  .object (by decide) List.nodup_nil (fun _ h => absurd h List.not_mem_nil)
    (fun _ h => absurd h List.not_mem_nil)

/-- An object whose members are named by different strings. -/
theorem readable_ofMembers {depth : Nat} {members : List (String × Json)}
    (hdepth : depth < maxDepth) (hnames : (members.map (·.1)).Nodup)
    (h : ∀ p ∈ members, Readable (depth + 1) p.2) : Readable depth (Json.ofMembers members) := by
  refine .object hdepth ?_ ?_ fun p hp => ?_
  · rw [Members.keys, List.map_map]
    have hkeys : ((members.map (·.1)).map Text.ofString).Nodup :=
      List.Pairwise.map _ (fun _ _ hne h => hne (Text.ofString_injective h)) hnames
    rwa [List.map_map] at hkeys
  · intro k hk
    obtain ⟨p, hp, rfl⟩ := List.mem_map.1 hk
    obtain ⟨q, -, rfl⟩ := List.mem_map.1 hp
    exact joined_ofString q.1
  · obtain ⟨q, hq, rfl⟩ := List.mem_map.1 hp
    exact h q hq

theorem Readable.insert {depth : Nat} {members : Members} (h : Readable depth (.object members))
    {key : Text} (hkey : Joined key) {v : Json} (hv : Readable (depth + 1) v) :
    Readable depth (.object (members.insert key v)) := by
  cases h with
  | object hdepth hkeys hjoined hmembers =>
    refine .object hdepth (Members.nodup_keys_insert hkeys) ?_ ?_
    · intro k hk
      rw [Members.keys_insert] at hk
      split at hk
      · exact hjoined k hk
      · rcases List.mem_append.1 hk with hk | hk
        · exact hjoined k hk
        · rwa [List.mem_singleton.1 hk]
    · intro p hp
      rcases Members.mem_insert hp with rfl | hp
      · exact hv
      · exact hmembers p hp

theorem Readable.erase {depth : Nat} {members : Members} (h : Readable depth (.object members))
    (key : Text) : Readable depth (.object (members.erase key)) := by
  have hsub := Members.erase_sublist key members
  cases h with
  | object hdepth hkeys hjoined hmembers =>
    have hkeysSub : List.Sublist (members.erase key).keys members.keys := hsub.map _
    exact .object hdepth (hkeys.sublist hkeysSub) (fun k hk => hjoined k (hkeysSub.subset hk))
      fun p hp => hmembers p (hsub.subset hp)

/-- What is read from a text can be read back, and the rest is an end of the text. -/
def Sound (depth : Nat) (t : Text) (r : Result Json) : Prop :=
  ∀ v rest, r = .ok (v, rest) → rest <:+ t ∧ Readable depth v

theorem Sound.of_suffix {depth : Nat} {t t' : Text} {r : Result Json} (h : Sound depth t' r)
    (ht : t' <:+ t) : Sound depth t r :=
  fun v rest hr => ⟨(h v rest hr).1.trans ht, (h v rest hr).2⟩

theorem sound_error {depth : Nat} {t : Text} (e : Failure) : Sound depth t (.error e) := by
  intro v rest h
  cases h

structure SoundReaders (fuel : Nat) : Prop where
  value : ∀ depth t, Whole t → Sound depth t (Reader.value fuel depth t)
  items : ∀ depth read t, Whole t → depth < maxDepth → (∀ u ∈ read, Readable (depth + 1) u) →
    Sound depth t (Reader.items fuel (depth + 1) read t)
  members : ∀ depth read t, Whole t → Readable depth (.object read) →
    Sound depth t (Reader.members fuel (depth + 1) read t)

namespace SoundReaders

variable {fuel depth : Nat} {t : Text}

theorem value_succ (h : SoundReaders fuel) (ht : Whole t) :
    Sound depth t (Reader.value (fuel + 1) depth t) := by
  rw [Reader.value.eq_def]
  dsimp only
  split
  · next rest =>
    have hrest : rest <:+ .char '"' :: rest := List.suffix_cons _ _
    split
    · next hbody =>
      intro v left heq
      cases heq
      exact ⟨(suffix_of_stringBody hbody).trans hrest,
        .string (joined_of_stringBody (ht.suffix hrest) hbody)⟩
    · exact sound_error _
  · next rest =>
    have hrest : skipSpace rest <:+ .char '[' :: rest :=
      (suffix_skipSpace rest).trans (List.suffix_cons _ _)
    split
    · exact sound_error _
    · next hdepth =>
      split
      · next heq =>
        intro v left heq'
        cases heq'
        rw [heq] at hrest
        exact ⟨(List.suffix_cons _ _).trans hrest, .array (Nat.not_le.1 hdepth) (by simp)⟩
      · exact (h.items depth [] _ (ht.suffix hrest) (Nat.not_le.1 hdepth) (by simp)).of_suffix hrest
  · next rest =>
    have hrest : skipSpace rest <:+ .char '\x7b' :: rest :=
      (suffix_skipSpace rest).trans (List.suffix_cons _ _)
    split
    · exact sound_error _
    · next hdepth =>
      have hempty : Readable depth (.object []) :=
        .object (Nat.not_le.1 hdepth) List.nodup_nil (by simp [Members.keys]) (by simp)
      split
      · next heq =>
        intro v left heq'
        cases heq'
        rw [heq] at hrest
        exact ⟨(List.suffix_cons _ _).trans hrest, hempty⟩
      · exact (h.members depth [] _ (ht.suffix hrest) hempty).of_suffix hrest
  · intro v left heq
    exact readable_of_scalar heq depth

theorem items_succ (h : SoundReaders fuel) {read : List Json} (ht : Whole t)
    (hdepth : depth < maxDepth)
    (hread : ∀ u ∈ read, Readable (depth + 1) u) :
    Sound depth t (Reader.items (fuel + 1) (depth + 1) read t) := by
  rw [Reader.items]
  split
  · exact sound_error _
  · next u rest heq =>
    obtain ⟨hrest, hu⟩ := h.value (depth + 1) t ht u rest heq
    have hskip : skipSpace rest <:+ t := (suffix_skipSpace rest).trans hrest
    have hread' : ∀ u' ∈ u :: read, Readable (depth + 1) u' := by
      intro u' hu'
      rcases List.mem_cons.1 hu' with rfl | hu'
      · exact hu
      · exact hread u' hu'
    split
    · next heq =>
      intro v left heq'
      cases heq'
      rw [heq] at hskip
      exact ⟨(List.suffix_cons _ _).trans hskip,
        .array hdepth fun u' hu' => hread' u' (List.mem_reverse.1 hu')⟩
    · next rest' heq =>
      rw [heq] at hskip
      have hrest' : skipSpace rest' <:+ t :=
        ((suffix_skipSpace rest').trans (List.suffix_cons _ _)).trans hskip
      exact (h.items depth _ _ (ht.suffix hrest') hdepth hread').of_suffix hrest'
    · exact sound_error _

theorem members_succ (h : SoundReaders fuel) {read : Members} (ht : Whole t)
    (hread : Readable depth (.object read)) :
    Sound depth t (Reader.members (fuel + 1) (depth + 1) read t) := by
  rw [Reader.members.eq_def]
  dsimp only
  split
  · next rest =>
    split
    · exact sound_error _
    · next key rest₁ hbody =>
      have hrest : rest <:+ .char '"' :: rest := List.suffix_cons _ _
      have hkey := joined_of_stringBody (ht.suffix hrest) hbody
      have hskip₁ := (suffix_skipSpace rest₁).trans ((suffix_of_stringBody hbody).trans hrest)
      split
      · next rest₂ heq =>
        rw [heq] at hskip₁
        have hskip₂ := ((suffix_skipSpace rest₂).trans (List.suffix_cons _ _)).trans hskip₁
        split
        · exact sound_error _
        · next u rest₃ hvalue =>
          obtain ⟨hrest₃, hu⟩ := h.value (depth + 1) _ (ht.suffix hskip₂) u rest₃ hvalue
          have hskip₃ := ((suffix_skipSpace rest₃).trans hrest₃).trans hskip₂
          split
          · next heq =>
            intro v left heq'
            cases heq'
            rw [heq] at hskip₃
            exact ⟨(List.suffix_cons _ _).trans hskip₃, hread.insert hkey hu⟩
          · next rest₄ heq =>
            rw [heq] at hskip₃
            have hskip₄ := ((suffix_skipSpace rest₄).trans (List.suffix_cons _ _)).trans hskip₃
            exact (h.members depth _ _ (ht.suffix hskip₄) (hread.insert hkey hu)).of_suffix hskip₄
          · exact sound_error _
      · exact sound_error _
  · exact sound_error _

end SoundReaders

theorem soundReaders (fuel : Nat) : SoundReaders fuel := by
  induction fuel with
  | zero =>
    refine ⟨?_, ?_, ?_⟩
    · intro depth t ht
      exact sound_error _
    · intro depth read t ht hdepth hread
      exact sound_error _
    · intro depth read t ht hread
      exact sound_error _
  | succ fuel ih =>
    exact ⟨fun depth t ht => ih.value_succ ht, fun depth read t ht => ih.items_succ ht,
      fun depth read t ht => ih.members_succ ht⟩

/-- A document of characters holds only what can be read back. -/
theorem readable_of_parse {t : Text} {v : Json} (ht : Whole t) (h : parse t = .ok v) :
    Readable 0 v := by
  rw [parse] at h
  split at h
  · next heq =>
    cases h
    rw [Reader.document.eq_def] at heq
    split at heq
    · cases heq
    · split at heq
      · cases heq
      · next hvalue =>
        split at heq
        · cases heq
          exact ((soundReaders _).value 0 _ (ht.suffix (suffix_skipSpace t)) _ _ hvalue).2
        · cases heq
  all_goals cases h

end Json

end CredentialHelper
