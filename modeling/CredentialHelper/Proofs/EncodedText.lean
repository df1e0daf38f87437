import CredentialHelper.Proofs.Utf8
import CredentialHelper.Text.Detection

/-!
# Text in every encoding form

The bytes of a text in UTF-8, UTF-16 or UTF-32, in either byte order and with or without a byte
order mark, are decoded to that text, provided that it begins with two ASCII characters: they show
the form where no mark does.
-/

namespace CredentialHelper

theorem toNat_byte {n : Nat} (h : n < 256) : (UInt8.ofNat n).toNat = n := by
  rw [UInt8.toNat_ofNat', Nat.mod_eq_of_lt h]

/-! ## UTF-16 -/

namespace Utf16

def unitBytes (bigEndian : Bool) (n : Nat) : Bytes :=
  if bigEndian then [UInt8.ofNat (n / 256), UInt8.ofNat (n % 256)]
  else [UInt8.ofNat (n % 256), UInt8.ofNat (n / 256)]

/-- The bytes of a character: of its code point, or of a pair of surrogates. -/
def encodeChar (bigEndian : Bool) (c : Char) : Bytes :=
  if c.toNat < 0x10000 then unitBytes bigEndian c.toNat
  else unitBytes bigEndian (0xD800 + (c.toNat - 0x10000) / 0x400) ++
    unitBytes bigEndian (0xDC00 + (c.toNat - 0x10000) % 0x400)

theorem unitBytes_eq (bigEndian : Bool) {n : Nat} (h : n < 0x10000) :
    ∃ a b, unitBytes bigEndian n = [a, b] ∧ unit bigEndian a b = n := by
  have hhigh : (UInt8.ofNat (n / 256)).toNat = n / 256 := toNat_byte (by omega)
  have hlow : (UInt8.ofNat (n % 256)).toNat = n % 256 := toNat_byte (by omega)
  cases bigEndian with
  | true =>
    refine ⟨_, _, rfl, ?_⟩
    rw [unit, if_pos rfl, hhigh, hlow]
    omega
  | false =>
    refine ⟨_, _, rfl, ?_⟩
    rw [unit, if_neg Bool.false_ne_true, hhigh, hlow]
    omega

theorem pieces_unit (bigEndian : Bool) {n : Nat} (h : n < 0x10000)
    (hhigh : ¬(0xD800 ≤ n ∧ n < 0xDC00)) (rest : Bytes) :
    pieces bigEndian (unitBytes bigEndian n ++ rest) =
      ⟨.ok (Symbol.ofCode n), 2⟩ :: pieces bigEndian rest := by
  obtain ⟨a, b, hbytes, hunit⟩ := unitBytes_eq bigEndian h
  have hnot (low : Nat) : ¬(0xD800 ≤ n ∧ n < 0xDC00 ∧ 0xDC00 ≤ low ∧ low < 0xE000) :=
    fun hpair => hhigh ⟨hpair.1, hpair.2.1⟩
  rw [hbytes, List.cons_append, List.cons_append, List.nil_append, pieces.eq_def]
  dsimp only
  rw [hunit]
  split
  · rw [if_neg (hnot _)]
  · rfl
  · rfl

theorem pieces_pair (bigEndian : Bool) {high low : Nat} (hhigh : 0xD800 ≤ high ∧ high < 0xDC00)
    (hlow : 0xDC00 ≤ low ∧ low < 0xE000) (rest : Bytes) :
    pieces bigEndian (unitBytes bigEndian high ++ unitBytes bigEndian low ++ rest) =
      ⟨.ok (Symbol.ofCode (0x10000 + (high - 0xD800) * 0x400 + (low - 0xDC00))), 4⟩ ::
        pieces bigEndian rest := by
  obtain ⟨a, b, hbytes, hunit⟩ := unitBytes_eq bigEndian (show high < 0x10000 by omega)
  obtain ⟨c, d, hbytes', hunit'⟩ := unitBytes_eq bigEndian (show low < 0x10000 by omega)
  rw [hbytes, hbytes']
  simp only [List.cons_append, List.nil_append]
  rw [pieces.eq_def]
  dsimp only
  rw [hunit, hunit', if_pos ⟨hhigh.1, hhigh.2, hlow.1, hlow.2⟩]

theorem pieces_encodeChar (bigEndian : Bool) (c : Char) (rest : Bytes) :
    ∃ size, pieces bigEndian (encodeChar bigEndian c ++ rest) =
      ⟨.ok (.char c), size⟩ :: pieces bigEndian rest := by
  have hcode : Symbol.ofCode c.toNat = .char c := Symbol.ofCode_code (.char c)
  have hlt : c.toNat < 0x110000 := Symbol.code_lt (.char c)
  have hvalid := c.valid
  simp only [UInt32.isValidChar, Nat.isValidChar] at hvalid
  rw [encodeChar]
  by_cases h : c.toNat < 0x10000
  · have hhigh : ¬(0xD800 ≤ c.toNat ∧ c.toNat < 0xDC00) := by
      rw [Char.toNat]
      omega
    rw [if_pos h, pieces_unit bigEndian h hhigh, hcode]
    exact ⟨_, rfl⟩
  · have hjoin : 0x10000 + (0xD800 + (c.toNat - 0x10000) / 0x400 - 0xD800) * 0x400 +
        (0xDC00 + (c.toNat - 0x10000) % 0x400 - 0xDC00) = c.toNat := by omega
    rw [if_neg h, pieces_pair bigEndian (by omega) (by omega), hjoin, hcode]
    exact ⟨_, rfl⟩

end Utf16

/-! ## UTF-32 -/

namespace Utf32

def encodeChar (bigEndian : Bool) (c : Char) : Bytes :=
  let bytes := [UInt8.ofNat (c.toNat / 16777216), UInt8.ofNat (c.toNat / 65536 % 256),
    UInt8.ofNat (c.toNat / 256 % 256), UInt8.ofNat (c.toNat % 256)]
  if bigEndian then bytes else bytes.reverse

theorem encodeChar_eq (bigEndian : Bool) (c : Char) :
    ∃ p q r s, encodeChar bigEndian c = [p, q, r, s] ∧ word bigEndian p q r s = c.toNat := by
  have hlt : c.toNat < 0x110000 := Symbol.code_lt (.char c)
  cases bigEndian with
  | true =>
    refine ⟨_, _, _, _, rfl, ?_⟩
    rw [word, if_pos rfl, toNat_byte (by omega), toNat_byte (by omega), toNat_byte (by omega),
      toNat_byte (by omega)]
    omega
  | false =>
    refine ⟨_, _, _, _, rfl, ?_⟩
    rw [word, if_neg Bool.false_ne_true, toNat_byte (by omega), toNat_byte (by omega),
      toNat_byte (by omega), toNat_byte (by omega)]
    omega

theorem pieces_encodeChar (bigEndian : Bool) (c : Char) (rest : Bytes) :
    ∃ size, pieces bigEndian (encodeChar bigEndian c ++ rest) =
      ⟨.ok (.char c), size⟩ :: pieces bigEndian rest := by
  have hcode : Symbol.ofCode c.toNat = .char c := Symbol.ofCode_code (.char c)
  have hlt : c.toNat < 0x110000 := Symbol.code_lt (.char c)
  obtain ⟨p, q, r, s, hbytes, hword⟩ := encodeChar_eq bigEndian c
  simp only [hbytes, List.cons_append, List.nil_append]
  rw [pieces, hword, if_pos hlt, hcode]
  exact ⟨_, rfl⟩

end Utf32

/-! ## Every form -/

namespace EncodingForm

def encodeChar : EncodingForm → Char → Bytes
  | .utf8 => String.utf8EncodeChar
  | .utf16 bigEndian => Utf16.encodeChar bigEndian
  | .utf32 bigEndian => Utf32.encodeChar bigEndian

def encode (form : EncodingForm) (cs : List Char) : Bytes := cs.flatMap form.encodeChar

/-- The byte order mark, which may stand in front of a text. -/
def mark (form : EncodingForm) : Bytes := form.encodeChar '\ufeff'

theorem pieces_encodeChar (form : EncodingForm) (c : Char) (rest : Bytes) :
    ∃ size, form.pieces (form.encodeChar c ++ rest) =
      ⟨.ok (.char c), size⟩ :: form.pieces rest := by
  cases form with
  | utf8 => exact ⟨_, Utf8.pieces_utf8EncodeChar true c rest⟩
  | utf16 bigEndian => exact Utf16.pieces_encodeChar bigEndian c rest
  | utf32 bigEndian => exact Utf32.pieces_encodeChar bigEndian c rest

theorem strictFrom_pieces (form : EncodingForm) (start : Nat) (cs : List Char) :
    Decoding.strictFrom start (form.pieces (form.encode cs)) = .ok (cs.map .char) := by
  induction cs generalizing start with
  | nil =>
    cases form with
    | utf8 =>
      rw [encode, List.flatMap_nil, pieces, Utf8.pieces]
      rfl
    | _ => rfl
  | cons c cs ih =>
    obtain ⟨size, hpieces⟩ := form.pieces_encodeChar c (form.encode cs)
    rw [encode, List.flatMap_cons, ← encode, hpieces, Decoding.strictFrom, ih]
    rfl

def padded (form : EncodingForm) (x : UInt8) : Bytes :=
  match form with
  | .utf8 => [x]
  | .utf16 true => [0, x]
  | .utf16 false => [x, 0]
  | .utf32 true => [0, 0, 0, x]
  | .utf32 false => [x, 0, 0, 0]

end EncodingForm

/-- An ASCII character that is not null. -/
def IsAscii (c : Char) : Prop := 0 < c.toNat ∧ c.toNat < 0x80

theorem IsAscii.byte {c : Char} (h : IsAscii c) :
    UInt8.ofNat c.toNat ≠ 0 ∧ UInt8.ofNat c.toNat < 0x80 := by
  have hall : ∀ n < 0x80, 0 < n → UInt8.ofNat n ≠ 0 ∧ UInt8.ofNat n < 0x80 := by decide +kernel
  exact hall c.toNat h.2 h.1

theorem EncodingForm.encodeChar_ascii (form : EncodingForm) {c : Char} (h : IsAscii c) :
    form.encodeChar c = form.padded (UInt8.ofNat c.toNat) := by
  obtain ⟨hpos, hlt⟩ := h
  have h256 : c.toNat / 256 = 0 := by omega
  have h65536 : c.toNat / 65536 = 0 := by omega
  have h16777216 : c.toNat / 16777216 = 0 := by omega
  have hmod : c.toNat % 256 = c.toNat := by omega
  cases form with
  | utf8 =>
    have hle : c.val.toNat ≤ 0x7f := Nat.le_of_lt_succ hlt
    rw [encodeChar, String.utf8EncodeChar.eq_def, if_pos hle]
    rfl
  | utf16 bigEndian =>
    rw [encodeChar, Utf16.encodeChar, if_pos (by omega), Utf16.unitBytes, h256, hmod]
    cases bigEndian <;> rfl
  | utf32 bigEndian =>
    rw [encodeChar, Utf32.encodeChar, h16777216, h65536, h256, hmod]
    cases bigEndian <;> rfl

namespace Detection

variable {x y : UInt8}

theorem ne_of_ascii {m : UInt8} (h : x < 0x80) (hm : ¬m < 0x80) : x ≠ m := by
  rintro rfl
  exact hm h

theorem detectUnmarked_padded (form : EncodingForm) (hx : x ≠ 0) (hy : y ≠ 0) (rest : Bytes) :
    detectUnmarked (form.padded x ++ (form.padded y ++ rest)) = form := by
  cases form with
  | utf8 =>
    rcases rest with _ | ⟨_, _ | ⟨_, _⟩⟩ <;>
      simp [EncodingForm.padded, detectUnmarked, hx, hy]
  | utf16 bigEndian => cases bigEndian <;> simp [EncodingForm.padded, detectUnmarked, hx, hy]
  | utf32 bigEndian => cases bigEndian <;> simp [EncodingForm.padded, detectUnmarked, hx]

theorem detect_padded (form : EncodingForm) (hx : x ≠ 0 ∧ x < 0x80) (hy : y ≠ 0 ∧ y < 0x80)
    (rest : Bytes) : detect (form.padded x ++ (form.padded y ++ rest)) = (form, 0) := by
  have h00 : 0x00 ≠ x := hx.1.symm
  have hFF : 0xFF ≠ x := (ne_of_ascii hx.2 (by decide)).symm
  have hFE : 0xFE ≠ x := (ne_of_ascii hx.2 (by decide)).symm
  have hEF : 0xEF ≠ x := (ne_of_ascii hx.2 (by decide)).symm
  rw [detect, detectUnmarked_padded form hx.1 hy.1]
  cases form with
  | utf8 => simp [EncodingForm.padded, h00, hFF, hFE, hEF]
  | utf16 bigEndian => cases bigEndian <;> simp [EncodingForm.padded, h00, hFF, hFE, hEF]
  | utf32 bigEndian => cases bigEndian <;> simp [EncodingForm.padded, h00, hFF, hFE, hEF]

theorem detect_mark (form : EncodingForm) (hx : x ≠ 0) (rest : Bytes) :
    detect (form.mark ++ (form.padded x ++ rest)) = (form, form.mark.length) := by
  cases form with
  | utf8 => rfl
  | utf16 bigEndian =>
    cases bigEndian with
    | true => rfl
    | false =>
      -- without a character behind it the mark could begin the one of UTF-32
      have hmark : (EncodingForm.utf16 false).mark = [0xFF, 0xFE] := by decide
      simp [hmark, EncodingForm.padded, detect, hx.symm]
  | utf32 bigEndian => cases bigEndian <;> rfl

def StartsAscii (cs : List Char) : Prop :=
  ∃ a b rest, cs = a :: b :: rest ∧ IsAscii a ∧ IsAscii b

theorem decode_of_detect {form : EncodingForm} {mark : Bytes} {cs : List Char}
    (h : detect (mark ++ form.encode cs) = (form, mark.length)) :
    decode (mark ++ form.encode cs) = .ok (cs.map .char) := by
  have hstrict (name : String) (bytes : Bytes) (start : Nat) :
      Decoding.strict name bytes start (form.pieces (form.encode cs)) = .ok (cs.map .char) := by
    rw [Decoding.strict, form.strictFrom_pieces]
  rw [decode, h]
  dsimp only
  rw [List.drop_left]
  cases form with
  | utf8 => exact hstrict _ _ _
  | utf16 bigEndian => exact hstrict _ _ _
  | utf32 bigEndian => exact hstrict _ _ _

/-- The bytes of a text are decoded to it in every form. -/
theorem decode_encode (form : EncodingForm) {cs : List Char} (h : StartsAscii cs) :
    decode (form.encode cs) = .ok (cs.map .char) := by
  obtain ⟨a, b, rest, rfl, ha, hb⟩ := h
  rw [← List.nil_append (form.encode _)]
  refine decode_of_detect ?_
  rw [List.nil_append, EncodingForm.encode, List.flatMap_cons, List.flatMap_cons,
    form.encodeChar_ascii ha, form.encodeChar_ascii hb]
  exact detect_padded form ha.byte hb.byte _

theorem decode_mark_encode (form : EncodingForm) {cs : List Char} (h : StartsAscii cs) :
    decode (form.mark ++ form.encode cs) = .ok (cs.map .char) := by
  obtain ⟨a, b, rest, rfl, ha, -⟩ := h
  refine decode_of_detect ?_
  rw [EncodingForm.encode, List.flatMap_cons, form.encodeChar_ascii ha]
  exact detect_mark form ha.byte.1 _

end Detection

end CredentialHelper
