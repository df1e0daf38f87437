import CredentialHelper.Text.Utf8

/-!
# UTF-8 both ways

The bytes of a string are decoded to it, and whatever is decoded holds no surrogate.  Both follow
from the pieces: the bytes of a character are one piece, and no piece is a surrogate.
-/

namespace CredentialHelper.Utf8

/-! ## The bytes of a character -/

theorem isContinuation_tail {k : Nat} (h : k < 64) :
    isContinuation (UInt8.ofNat (k + 0x80)) = true ∧ tailBits (UInt8.ofNat (k + 0x80)) = k := by
  revert k
  decide +kernel

theorem first_of_two {k : Nat} (h : k < 32) (hmin : 2 ≤ k) :
    ¬UInt8.ofNat (k + 0xC0) < 0x80 ∧ ¬UInt8.ofNat (k + 0xC0) < 0xC2 ∧
      UInt8.ofNat (k + 0xC0) < 0xE0 ∧ (UInt8.ofNat (k + 0xC0)).toNat % 32 = k := by
  revert k
  decide +kernel

theorem first_of_three {k : Nat} (h : k < 16) :
    ¬UInt8.ofNat (k + 0xE0) < 0x80 ∧ ¬UInt8.ofNat (k + 0xE0) < 0xC2 ∧
      ¬UInt8.ofNat (k + 0xE0) < 0xE0 ∧ UInt8.ofNat (k + 0xE0) < 0xF0 ∧
        (UInt8.ofNat (k + 0xE0)).toNat % 16 = k := by
  revert k
  decide +kernel

theorem second_of_three {k j : Nat} (hk : k < 16) (hj : j < 64) (h0 : k = 0 → 32 ≤ j)
    (hd : k = 13 → j < 32) (surrogates : Bool) :
    secondOfThree surrogates (UInt8.ofNat (k + 0xE0)) (UInt8.ofNat (j + 0x80)) = true := by
  have hall : ∀ k < 16, ∀ j < 64, (k = 0 → 32 ≤ j) → (k = 13 → j < 32) →
      secondOfThree false (UInt8.ofNat (k + 0xE0)) (UInt8.ofNat (j + 0x80)) = true := by
    decide +kernel
  have hstrict := hall k hk j hj h0 hd
  rw [secondOfThree, Bool.false_or, Bool.and_eq_true] at hstrict
  rw [secondOfThree, hstrict.1, hstrict.2, Bool.or_true, Bool.and_true]

theorem first_of_four {k : Nat} (h : k < 5) :
    ¬UInt8.ofNat (k + 0xF0) < 0x80 ∧ ¬UInt8.ofNat (k + 0xF0) < 0xC2 ∧
      ¬UInt8.ofNat (k + 0xF0) < 0xE0 ∧ ¬UInt8.ofNat (k + 0xF0) < 0xF0 ∧
        UInt8.ofNat (k + 0xF0) < 0xF5 ∧ (UInt8.ofNat (k + 0xF0)).toNat % 8 = k := by
  revert k
  decide +kernel

theorem second_of_four {k j : Nat} (hk : k < 5) (hj : j < 64) (h0 : k = 0 → 16 ≤ j)
    (h4 : k = 4 → j < 16) :
    secondOfFour (UInt8.ofNat (k + 0xF0)) (UInt8.ofNat (j + 0x80)) = true := by
  have hall : ∀ k < 5, ∀ j < 64, (k = 0 → 16 ≤ j) → (k = 4 → j < 16) →
      secondOfFour (UInt8.ofNat (k + 0xF0)) (UInt8.ofNat (j + 0x80)) = true := by
    decide +kernel
  exact hall k hk j hj h0 h4

theorem piece_one (surrogates : Bool) {v : Nat} (h : v < 0x80) (rest : Bytes) :
    piece surrogates (UInt8.ofNat v) rest = ⟨.ok (Symbol.ofCode v), 1⟩ := by
  have hfirst : ∀ v < 0x80, UInt8.ofNat v < 0x80 ∧ (UInt8.ofNat v).toNat = v := by
    decide +kernel
  rw [piece.eq_def, if_pos (hfirst v h).1, (hfirst v h).2]
  rfl

theorem piece_two (surrogates : Bool) {v : Nat} (hmin : 0x80 ≤ v) (h : v < 0x800) (rest : Bytes) :
    piece surrogates (UInt8.ofNat (v / 64 % 0x20 + 0xC0)) (UInt8.ofNat (v % 0x40 + 0x80) :: rest) =
      ⟨.ok (Symbol.ofCode v), 2⟩ := by
  obtain ⟨hmin1, hmin2, hmax, hbits⟩ := first_of_two (show v / 64 % 0x20 < 32 by omega) (by omega)
  obtain ⟨hb, hb'⟩ := isContinuation_tail (show v % 0x40 < 64 by omega)
  have hcode : v / 64 % 0x20 * 64 + v % 0x40 = v := by omega
  rw [piece.eq_def, if_neg hmin1, if_neg hmin2, if_pos hmax]
  dsimp only
  rw [if_pos hb, hbits, hb', hcode]
  rfl

theorem piece_three (surrogates : Bool) {v : Nat} (hmin : 0x800 ≤ v) (h : v < 0x10000)
    (hvalid : v < 0xD800 ∨ 0xDFFF < v) (rest : Bytes) :
    piece surrogates (UInt8.ofNat (v / 4096 % 0x10 + 0xE0))
        (UInt8.ofNat (v / 64 % 0x40 + 0x80) :: UInt8.ofNat (v % 0x40 + 0x80) :: rest) =
      ⟨.ok (Symbol.ofCode v), 3⟩ := by
  obtain ⟨hmin1, hmin2, hmin3, hmax, hbits⟩ :=
    first_of_three (show v / 4096 % 0x10 < 16 by omega)
  have hsecond := second_of_three (show v / 4096 % 0x10 < 16 by omega)
    (show v / 64 % 0x40 < 64 by omega) (by omega) (by omega) surrogates
  obtain ⟨-, hb⟩ := isContinuation_tail (show v / 64 % 0x40 < 64 by omega)
  obtain ⟨hc, hc'⟩ := isContinuation_tail (show v % 0x40 < 64 by omega)
  have hcode : (v / 4096 % 0x10 * 64 + v / 64 % 0x40) * 64 + v % 0x40 = v := by omega
  rw [piece.eq_def, if_neg hmin1, if_neg hmin2, if_neg hmin3, if_pos hmax]
  dsimp only
  rw [hsecond, hc, hbits, hb, hc', hcode]
  rfl

theorem piece_four (surrogates : Bool) {v : Nat} (hmin : 0x10000 ≤ v) (h : v < 0x110000)
    (rest : Bytes) :
    piece surrogates (UInt8.ofNat (v / 262144 % 0x08 + 0xF0))
        (UInt8.ofNat (v / 4096 % 0x40 + 0x80) :: UInt8.ofNat (v / 64 % 0x40 + 0x80) ::
          UInt8.ofNat (v % 0x40 + 0x80) :: rest) =
      ⟨.ok (Symbol.ofCode v), 4⟩ := by
  obtain ⟨hmin1, hmin2, hmin3, hmin4, hmax, hbits⟩ :=
    first_of_four (show v / 262144 % 0x08 < 5 by omega)
  have hsecond := second_of_four (show v / 262144 % 0x08 < 5 by omega)
    (show v / 4096 % 0x40 < 64 by omega) (by omega) (by omega)
  obtain ⟨-, hb⟩ := isContinuation_tail (show v / 4096 % 0x40 < 64 by omega)
  obtain ⟨hc, hc'⟩ := isContinuation_tail (show v / 64 % 0x40 < 64 by omega)
  obtain ⟨hd, hd'⟩ := isContinuation_tail (show v % 0x40 < 64 by omega)
  have hcode : ((v / 262144 % 0x08 * 64 + v / 4096 % 0x40) * 64 + v / 64 % 0x40) * 64 +
      v % 0x40 = v := by omega
  rw [piece.eq_def, if_neg hmin1, if_neg hmin2, if_neg hmin3, if_neg hmin4, if_pos hmax]
  dsimp only
  rw [hsecond, hc, hd, hbits, hb, hc', hd', hcode]
  rfl

theorem pieces_cons (surrogates : Bool) (a : UInt8) (rest : Bytes) :
    pieces surrogates (a :: rest) =
      piece surrogates a rest ::
        pieces surrogates (rest.drop ((piece surrogates a rest).size - 1)) := by
  rw [pieces]

theorem pieces_utf8EncodeChar (surrogates : Bool) (c : Char) (rest : Bytes) :
    pieces surrogates (String.utf8EncodeChar c ++ rest) =
      ⟨.ok (.char c), (String.utf8EncodeChar c).length⟩ :: pieces surrogates rest := by
  have hcode : Symbol.ofCode c.val.toNat = .char c := Symbol.ofCode_code (.char c)
  have hvalid := c.valid
  unfold UInt32.isValidChar Nat.isValidChar at hvalid
  rw [← hcode]
  unfold String.utf8EncodeChar
  dsimp only
  by_cases h1 : c.val.toNat ≤ 0x7f
  · rw [if_pos h1, List.cons_append, List.nil_append, pieces_cons, piece_one _ (by omega)]
    rfl
  · rw [if_neg h1]
    by_cases h2 : c.val.toNat ≤ 0x7ff
    · rw [if_pos h2, List.cons_append, List.cons_append, List.nil_append, pieces_cons,
        piece_two _ (by omega) (by omega)]
      rfl
    · rw [if_neg h2]
      by_cases h3 : c.val.toNat ≤ 0xffff
      · rw [if_pos h3, List.cons_append, List.cons_append, List.cons_append, List.nil_append,
          pieces_cons, piece_three _ (by omega) (by omega) (by omega)]
        rfl
      · rw [if_neg h3, List.cons_append, List.cons_append, List.cons_append, List.cons_append,
          List.nil_append, pieces_cons, piece_four _ (by omega) (by omega)]
        rfl

theorem strictFrom_pieces (start : Nat) (cs : List Char) :
    Decoding.strictFrom start (pieces false (encodeChars cs)) = .ok (cs.map .char) := by
  induction cs generalizing start with
  | nil =>
    rw [encodeChars, List.flatMap_nil, pieces]
    rfl
  | cons c cs ih =>
    rw [encodeChars, List.flatMap_cons, pieces_utf8EncodeChar, Decoding.strictFrom, ← encodeChars,
      ih]
    rfl

theorem decode_encode (s : String) : decode (encode s) = .ok (Text.ofString s) := by
  rw [decode, Decoding.strict, encode, strictFrom_pieces]
  rfl

theorem decodeLenient_encodeChars (cs : List Char) :
    decodeLenient (encodeChars cs) = cs.map .char := by
  rw [decodeLenient]
  induction cs with
  | nil =>
    rw [encodeChars, List.flatMap_nil, pieces]
    rfl
  | cons c cs ih =>
    rw [encodeChars, List.flatMap_cons, pieces_utf8EncodeChar, ← encodeChars]
    exact congrArg (Symbol.char c :: ·) ih

theorem lt_of_isContinuation {b : UInt8} (h : isContinuation b = true) :
    0x80 ≤ b.toNat ∧ b.toNat < 0xC0 := by
  simp only [isContinuation, Bool.and_eq_true, decide_eq_true_eq, UInt8.le_iff_toNat_le] at h
  have hmin : 128 ≤ b.toNat := h.1
  have hmax : b.toNat ≤ 191 := h.2
  omega

theorem lt_of_secondOfThree {a b : UInt8} (h : secondOfThree false a b = true) :
    0x80 ≤ b.toNat ∧ b.toNat < 0xC0 ∧ (a.toNat = 0xE0 → 0xA0 ≤ b.toNat) ∧
      (a.toNat = 0xED → b.toNat < 0xA0) := by
  simp only [secondOfThree, Bool.false_or, Bool.and_eq_true, Bool.not_eq_true',
    Bool.and_eq_false_iff, beq_eq_false_iff_ne, decide_eq_false_iff_not] at h
  obtain ⟨⟨htail, hmin⟩, hmax⟩ := h
  obtain ⟨hb, hb'⟩ := lt_of_isContinuation htail
  refine ⟨hb, hb', fun ha => ?_, fun ha => ?_⟩
  · exact Nat.le_of_not_lt (hmin.resolve_left fun hne => hne (UInt8.toNat_inj.1 ha))
  · exact Nat.lt_of_not_le (hmax.resolve_left fun hne => hne (UInt8.toNat_inj.1 ha))

theorem lt_of_secondOfFour {a b : UInt8} (h : secondOfFour a b = true) :
    0x80 ≤ b.toNat ∧ b.toNat < 0xC0 ∧ (a.toNat = 0xF0 → 0x90 ≤ b.toNat) ∧
      (a.toNat = 0xF4 → b.toNat < 0x90) := by
  simp only [secondOfFour, Bool.and_eq_true, Bool.not_eq_true', Bool.and_eq_false_iff,
    beq_eq_false_iff_ne, decide_eq_false_iff_not] at h
  obtain ⟨⟨htail, hmin⟩, hmax⟩ := h
  obtain ⟨hb, hb'⟩ := lt_of_isContinuation htail
  refine ⟨hb, hb', fun ha => ?_, fun ha => ?_⟩
  · exact Nat.le_of_not_lt (hmin.resolve_left fun hne => hne (UInt8.toNat_inj.1 ha))
  · exact Nat.lt_of_not_le (hmax.resolve_left fun hne => hne (UInt8.toNat_inj.1 ha))

theorem ofNat_eq {n : Nat} {a : UInt8} (h : n = a.toNat) : UInt8.ofNat n = a := by
  rw [h, UInt8.ofNat_toNat]

theorem exists_char {n : Nat} (h : n < 0xD800 ∨ 0xE000 ≤ n ∧ n < 0x110000) :
    ∃ c : Char, Symbol.ofCode n = .char c ∧ c.val.toNat = n := by
  have hsurrogate := Symbol.isSurrogate_ofCode (n := n) (by omega)
  have hcode := Symbol.code_ofCode (n := n) (by omega)
  cases hsymbol : Symbol.ofCode n with
  | char c =>
    rw [hsymbol] at hcode
    exact ⟨c, rfl, hcode⟩
  | surrogate m =>
    rw [hsymbol] at hsurrogate
    cases hsurrogate

theorem exists_char_of_piece (a : UInt8) (rest : Bytes) :
    ∀ s, (piece false a rest).content = .ok s →
      ∃ c, s = .char c ∧
        String.utf8EncodeChar c = (a :: rest).take (piece false a rest).size := by
  fun_cases piece false a rest
  case case1 ha =>
    intro s h
    have ha : a.toNat < 0x80 := ha
    obtain ⟨c, hsymbol, hc⟩ := exists_char (n := a.toNat) (by omega)
    refine ⟨c, (Except.ok.inj h).symm.trans hsymbol, ?_⟩
    rw [String.utf8EncodeChar, hc]
    rw [if_pos (by omega), ofNat_eq rfl]
    rfl
  case case3 hmin hmax b more hb =>
    intro s h
    have hmin : 0xC2 ≤ a.toNat := Nat.le_of_not_lt hmin
    have hmax : a.toNat < 0xE0 := hmax
    have hb := lt_of_isContinuation hb
    have hbits : tailBits b = b.toNat % 64 := rfl
    obtain ⟨c, hsymbol, hc⟩ := exists_char (n := a.toNat % 32 * 64 + tailBits b) (by omega)
    refine ⟨c, (Except.ok.inj h).symm.trans hsymbol, ?_⟩
    rw [String.utf8EncodeChar, hc]
    rw [if_neg (by omega), if_pos (by omega), ofNat_eq (a := a) (by omega),
      ofNat_eq (a := b) (by omega)]
    rfl
  case case8 hmin hmax b d more hb hd =>
    intro s h
    have hmin : 0xE0 ≤ a.toNat := Nat.le_of_not_lt hmin
    have hmax : a.toNat < 0xF0 := hmax
    rw [Bool.not_eq_true', Bool.not_eq_false] at hb hd
    have hb := lt_of_secondOfThree hb
    have hd := lt_of_isContinuation hd
    have hbits : tailBits b = b.toNat % 64 := rfl
    have hbits' : tailBits d = d.toNat % 64 := rfl
    obtain ⟨c, hsymbol, hc⟩ :=
      exists_char (n := (a.toNat % 16 * 64 + tailBits b) * 64 + tailBits d) (by omega)
    refine ⟨c, (Except.ok.inj h).symm.trans hsymbol, ?_⟩
    rw [String.utf8EncodeChar, hc, if_neg (by omega), if_neg (by omega), if_pos (by omega),
      ofNat_eq (a := a) (by omega), ofNat_eq (a := b) (by omega), ofNat_eq (a := d) (by omega)]
    rfl
  case case15 hmin hmax b d e more hb hd he =>
    intro s h
    have hmin : 0xF0 ≤ a.toNat := Nat.le_of_not_lt hmin
    have hmax : a.toNat < 0xF5 := hmax
    rw [Bool.not_eq_true', Bool.not_eq_false] at hb hd he
    have hb := lt_of_secondOfFour hb
    have hd := lt_of_isContinuation hd
    have he := lt_of_isContinuation he
    have hbits : tailBits b = b.toNat % 64 := rfl
    have hbits' : tailBits d = d.toNat % 64 := rfl
    have hbits'' : tailBits e = e.toNat % 64 := rfl
    obtain ⟨c, hsymbol, hc⟩ := exists_char
      (n := ((a.toNat % 8 * 64 + tailBits b) * 64 + tailBits d) * 64 + tailBits e) (by omega)
    refine ⟨c, (Except.ok.inj h).symm.trans hsymbol, ?_⟩
    rw [String.utf8EncodeChar, hc, if_neg (by omega), if_neg (by omega), if_neg (by omega),
      ofNat_eq (a := a) (by omega), ofNat_eq (a := b) (by omega), ofNat_eq (a := d) (by omega),
      ofNat_eq (a := e) (by omega)]
    rfl
  all_goals
    intro s h
    cases h

theorem isSurrogate_of_mem_pieces (bytes : Bytes) :
    ∀ p ∈ pieces false bytes, ∀ s, p.content = .ok s → s.isSurrogate = false := by
  fun_induction pieces false bytes
  case case1 =>
    intro p hp
    cases hp
  case case2 a rest _ ih =>
    intro p hp
    rcases List.mem_cons.1 hp with rfl | hp
    · intro s hs
      obtain ⟨c, rfl, -⟩ := exists_char_of_piece a rest s hs
      rfl
    · exact ih p hp

theorem isSurrogate_of_strictFrom {start : Nat} {pieces : List Piece} {t : Text}
    (h : Decoding.strictFrom start pieces = .ok t)
    (hpieces : ∀ p ∈ pieces, ∀ s, p.content = .ok s → s.isSurrogate = false) :
    ∀ s ∈ t, s.isSurrogate = false := by
  fun_induction Decoding.strictFrom start pieces generalizing t
  case case1 =>
    cases h
    intro s hs
    cases hs
  case case2 start s size rest ih =>
    cases htail : Decoding.strictFrom (start + size) rest with
    | error e =>
      rw [htail] at h
      cases h
    | ok t' =>
      rw [htail] at h
      cases h
      intro s' hs'
      rcases List.mem_cons.1 hs' with rfl | hs'
      · exact hpieces _ (List.mem_cons_self ..) _ rfl
      · exact ih htail (fun p hp => hpieces p (List.mem_cons_of_mem _ hp)) s' hs'
  case case3 => cases h

theorem isSurrogate_of_decode {bytes : Bytes} {t : Text} (h : decode bytes = .ok t) :
    ∀ s ∈ t, s.isSurrogate = false := by
  rw [decode, Decoding.strict] at h
  split at h
  · next hstrict =>
    cases h
    exact isSurrogate_of_strictFrom hstrict (isSurrogate_of_mem_pieces bytes)
  · cases h

end CredentialHelper.Utf8
