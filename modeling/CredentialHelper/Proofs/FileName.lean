import CredentialHelper.Host.FileName
import CredentialHelper.Proofs.Utf8

/-!
# Names and their bytes

The text by which the system shows a name has the bytes of the name.  Hence two names that are shown
alike have the same bytes, and a name is shown as one of dots only if it is that name.
-/

namespace CredentialHelper

namespace FileName

theorem size_piece_pos (a : UInt8) (rest : Bytes) : 0 < (Utf8.piece false a rest).size := by
  fun_cases Utf8.piece false a rest
  case case7 =>
    show 0 < if _ then 2 else 1
    split <;> decide
  all_goals exact Nat.succ_pos _

theorem flatMap_map_ofByte (bytes : Bytes) : (bytes.map ofByte).flatMap symbolBytes = bytes := by
  induction bytes with
  | nil => rfl
  | cons b bytes ih =>
    have hlt := b.toNat_lt
    have hb : UInt8.ofNat ((0x400 + b.toNat) % 256) = b := Utf8.ofNat_eq (by omega)
    rw [List.map_cons, List.flatMap_cons, ih]
    show [UInt8.ofNat ((0x400 + b.toNat) % 256)] ++ bytes = b :: bytes
    rw [hb]
    rfl

theorem flatMap_shown (bytes : Bytes) :
    (shown bytes (Utf8.pieces false bytes)).flatMap symbolBytes = bytes := by
  fun_induction Utf8.pieces false bytes
  case case1 => rfl
  case case2 a rest p ih =>
    have hsize : 0 < p.size := size_piece_pos a rest
    have hdrop : (a :: rest).drop p.size = rest.drop (p.size - 1) := by
      obtain ⟨n, hn⟩ := Nat.exists_eq_add_one_of_ne_zero (Nat.ne_of_gt hsize)
      rw [hn]
      rfl
    have hwhole := List.take_append_drop p.size (a :: rest)
    rw [hdrop] at hwhole
    rw [shown, List.flatMap_append, hdrop, ih]
    refine Eq.trans (congrArg (· ++ rest.drop (p.size - 1)) ?_) hwhole
    cases hcontent : p.content with
    | error e => exact flatMap_map_ofByte _
    | ok s =>
      obtain ⟨c, rfl, hbytes⟩ := Utf8.exists_char_of_piece a rest s hcontent
      rw [← hbytes]
      exact List.append_nil _

theorem flatMap_decode (bytes : Bytes) : (decode bytes).flatMap symbolBytes = bytes :=
  flatMap_shown bytes

def Allowed : Symbol → Prop
  | .char c => c ≠ '\x00'
  | .surrogate n => isByte n = true

theorem refused?_eq_none_iff {allowed : Fin 2048 → Bool} {position : Nat} {t : Text} :
    Encoding.refused? allowed position t = none ↔ ∀ n, .surrogate n ∈ t → allowed n = true := by
  induction t generalizing position with
  | nil => simp [Encoding.refused?]
  | cons s t ih =>
    cases s with
    | char c => simp [Encoding.refused?, ih]
    | surrogate n =>
      rw [Encoding.refused?]
      split
      · next h => simp [ih, h]
      · next h => simp [h]

theorem encode_eq_ok_iff {t : Text} {bytes : Bytes} :
    encode t = .ok bytes ↔ (∀ s ∈ t, Allowed s) ∧ bytes = t.flatMap symbolBytes := by
  have hnull : t.contains '\x00' = true ↔ (.char '\x00') ∈ t := List.contains_iff_mem
  rw [encode]
  split
  · next e he =>
    constructor
    · intro h
      cases h
    · rintro ⟨hall, -⟩
      have hnone : Encoding.refused? isByte 0 t = none :=
        refused?_eq_none_iff.2 fun n hn => hall _ hn
      rw [hnone] at he
      cases he
  · next he =>
    have hbyte := refused?_eq_none_iff.1 he
    split
    · next hc =>
      constructor
      · intro h
        cases h
      · rintro ⟨hall, -⟩
        exact absurd rfl (hall _ (hnull.1 hc))
    · next hc =>
      constructor
      · intro h
        cases h
        refine ⟨fun s hs => ?_, rfl⟩
        cases s with
        | surrogate n => exact hbyte n hs
        | char c =>
          rintro rfl
          exact hc (hnull.2 hs)
      · rintro ⟨-, rfl⟩
        rfl

theorem encode_eq_ok {t : Text} (h : ∀ s ∈ t, Allowed s) : encode t = .ok (t.flatMap symbolBytes) :=
  encode_eq_ok_iff.2 ⟨h, rfl⟩

theorem size_append (as bs : Text) : size (as ++ bs) = size as + size bs := by
  rw [size, List.flatMap_append, List.length_append]
  rfl

theorem size_replicate (n : Nat) (s : Symbol) :
    size (List.replicate n s) = n * (symbolBytes s).length := by
  rw [size, List.length_flatMap, List.map_replicate, List.sum_replicate_nat]

theorem flatMap_canonical (t : Text) (h : ∀ s ∈ t, Allowed s) :
    (canonical t).flatMap symbolBytes = t.flatMap symbolBytes := by
  rw [canonical, encode_eq_ok h]
  exact flatMap_decode _

theorem size_canonical {t : Text} (h : ∀ s ∈ t, Allowed s) : size (canonical t) = size t := by
  rw [size, flatMap_canonical t h, size]

theorem symbol_of_ascii {s : Symbol} (h : Allowed s) {b : UInt8} {more : Bytes}
    (hbytes : symbolBytes s = b :: more) (hb : b.toNat < 0x80) :
    s = .char (Char.ofNat b.toNat) ∧ more = [] := by
  cases s with
  | surrogate n =>
    have hn : isByte n = true := h
    simp only [isByte, Bool.and_eq_true, decide_eq_true_eq] at hn
    have hhead : UInt8.ofNat (n.val % 256) = b := (List.cons.inj hbytes).1
    rw [← hhead, UInt8.toNat_ofNat'] at hb
    omega
  | char c =>
    have hvalid := c.valid
    unfold UInt32.isValidChar Nat.isValidChar at hvalid
    change String.utf8EncodeChar c = b :: more at hbytes
    rw [String.utf8EncodeChar] at hbytes
    split at hbytes
    · next hlt =>
      obtain ⟨hhead, hmore⟩ := List.cons.inj hbytes
      rw [← hhead, UInt8.toNat_ofNat', Nat.mod_eq_of_lt (show c.val.toNat < 2 ^ 8 by omega)]
      exact ⟨congrArg Symbol.char c.ofNat_toNat.symm, hmore.symm⟩
    · exfalso
      split at hbytes
      · rw [← (List.cons.inj hbytes).1, UInt8.toNat_ofNat'] at hb
        omega
      · split at hbytes
        · rw [← (List.cons.inj hbytes).1, UInt8.toNat_ofNat'] at hb
          omega
        · rw [← (List.cons.inj hbytes).1, UInt8.toNat_ofNat'] at hb
          omega

theorem symbolBytes_ne_nil (s : Symbol) : symbolBytes s ≠ [] := by
  cases s with
  | char c => exact String.utf8EncodeChar_ne_nil
  | surrogate n => exact List.cons_ne_nil _ _

theorem eq_of_ascii {t : Text} (h : ∀ s ∈ t, Allowed s)
    (hbytes : ∀ b ∈ t.flatMap symbolBytes, b.toNat < 0x80) :
    t = (t.flatMap symbolBytes).map fun b => .char (Char.ofNat b.toNat) := by
  induction t with
  | nil => rfl
  | cons s t ih =>
    rw [List.flatMap_cons] at hbytes
    obtain ⟨b, more, hs⟩ := List.exists_cons_of_ne_nil (symbolBytes_ne_nil s)
    have hb := hbytes b (by rw [hs]; exact List.mem_cons_self ..)
    obtain ⟨hsymbol, hmore⟩ := symbol_of_ascii (h s (List.mem_cons_self ..)) hs hb
    have htail := ih (fun s hs => h s (List.mem_cons_of_mem _ hs))
      fun b hb => hbytes b (List.mem_append_right _ hb)
    rw [List.flatMap_cons, hs, hmore, List.map_append, ← htail, hsymbol]
    rfl

theorem bytes_of_ascii {cs : List Char} (h : ∀ c ∈ cs, c.toNat < 0x80) :
    (cs.map Symbol.char).flatMap symbolBytes = cs.map fun c => UInt8.ofNat c.toNat := by
  induction cs with
  | nil => rfl
  | cons c cs ih =>
    have hc : c.val.toNat ≤ 0x7f := Nat.le_of_lt_succ (h c (List.mem_cons_self ..))
    have hhead : symbolBytes (.char c) = [UInt8.ofNat c.toNat] := by
      show String.utf8EncodeChar c = _
      rw [String.utf8EncodeChar, if_pos hc]
      rfl
    rw [List.map_cons, List.flatMap_cons, hhead, ih fun c hc => h c (List.mem_cons_of_mem _ hc)]
    rfl

/-- A name is shown as one of ASCII only if it is that name. -/
theorem canonical_ne {t : Text} (h : ∀ s ∈ t, Allowed s) {name : String}
    (hname : name.toList.all (·.toNat < 0x80) = true) (hne : t ≠ Text.ofString name) :
    canonical t ≠ Text.ofString name := by
  intro heq
  simp only [List.all_eq_true, decide_eq_true_eq] at hname
  have hbytes : t.flatMap symbolBytes = name.toList.map fun c => UInt8.ofNat c.toNat := by
    rw [← flatMap_canonical t h, heq, Text.ofString, bytes_of_ascii hname]
  have hascii : ∀ b ∈ t.flatMap symbolBytes, b.toNat < 0x80 := by
    rw [hbytes]
    intro b hb
    obtain ⟨c, hc, rfl⟩ := List.mem_map.1 hb
    have := hname c hc
    rw [UInt8.toNat_ofNat']
    omega
  apply hne
  rw [eq_of_ascii h hascii, hbytes, List.map_map, Text.ofString]
  refine List.map_congr_left fun c hc => ?_
  have := hname c hc
  show Symbol.char (Char.ofNat (UInt8.ofNat c.toNat).toNat) = _
  rw [UInt8.toNat_ofNat', Nat.mod_eq_of_lt (show c.toNat < 2 ^ 8 by omega), Char.ofNat_toNat]

theorem shown_pieces (cs : List Char) :
    shown (Utf8.encodeChars cs) (Utf8.pieces false (Utf8.encodeChars cs)) = cs.map .char := by
  induction cs with
  | nil =>
    rw [Utf8.encodeChars, List.flatMap_nil, Utf8.pieces]
    rfl
  | cons c cs ih =>
    rw [Utf8.encodeChars, List.flatMap_cons, Utf8.pieces_utf8EncodeChar, shown, ← Utf8.encodeChars,
      List.drop_left, ih]
    rfl

theorem allowed_map_char {cs : List Char} (h : '\x00' ∉ cs) :
    ∀ s ∈ cs.map Symbol.char, Allowed s := by
  intro s hs
  obtain ⟨c, hc, rfl⟩ := List.mem_map.1 hs
  rintro rfl
  exact h hc

theorem canonical_map_char {cs : List Char} (h : '\x00' ∉ cs) :
    canonical (cs.map .char) = cs.map .char := by
  have hbytes : (cs.map Symbol.char).flatMap symbolBytes = Utf8.encodeChars cs := by
    rw [List.flatMap_map]
    rfl
  rw [canonical, encode_eq_ok (allowed_map_char h), hbytes]
  exact shown_pieces cs

end FileName

end CredentialHelper
