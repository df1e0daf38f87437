import CredentialHelper.Json.Reader
import CredentialHelper.Json.Writer
import Mathlib.Data.List.Chain

/-!
# Strings in JSON

A symbol can be written as itself, by a short escape or by its UTF-16 code units (`Written`).
However a string is written, it is read, provided that it does not hold the two halves of a
surrogate pair one behind the other: their escapes would be read as one symbol.  `Joined` says so,
and every string that is read from a text without surrogates has the property.
-/

namespace CredentialHelper

namespace Json

open Reader

variable {opening : Nat}

/-! ## Reading one symbol -/

theorem hexValue?_digitChar {n : Nat} (h : n < 16) :
    hexValue? (.char (Nat.digitChar n)) = some n := by
  have : ∀ m : Fin 16, hexValue? (.char (Nat.digitChar m)) = some m.val := by decide
  exact this ⟨n, h⟩

theorem codeUnit?_digits {n : Nat} (h : n < 65536) :
    codeUnit? (.char (Nat.digitChar (n / 4096 % 16))) (.char (Nat.digitChar (n / 256 % 16)))
      (.char (Nat.digitChar (n / 16 % 16))) (.char (Nat.digitChar (n % 16))) = some n := by
  rw [codeUnit?, hexValue?_digitChar (by omega), hexValue?_digitChar (by omega),
    hexValue?_digitChar (by omega), hexValue?_digitChar (by omega)]
  simp only [Option.bind_eq_bind, Option.bind_some, Option.pure_def, Option.some.injEq]
  omega

theorem stringBody_quote (rest : Text) :
    stringBody opening (.char '"' :: rest) = .ok ([], rest) := by
  rw [stringBody.eq_def]
  dsimp only
  rw [if_pos rfl]

theorem stringBody_plain {s : Symbol} (hquote : s ≠ .char '"') (hback : s ≠ .char '\\')
    (hcode : 0x20 ≤ s.code) (rest : Text) :
    stringBody opening (s :: rest) = prepend s (stringBody opening rest) := by
  rw [stringBody.eq_def]
  dsimp only
  rw [if_neg hquote, if_neg hback, if_neg (by omega)]

theorem stringBody_simple {e s : Symbol} (h : simpleEscape? e = some s) (rest : Text) :
    stringBody opening (.char '\\' :: e :: rest) = prepend s (stringBody opening rest) := by
  have hu : e ≠ .char 'u' := by
    rintro rfl
    cases h
  rw [stringBody.eq_def]
  dsimp only
  rw [if_neg (by decide), if_pos rfl]
  simp only [hu, if_false, h]

theorem stringBody_unit {a b c d x : Symbol} {unit : Nat} (h : codeUnit? a b c d = some unit)
    (hhigh : isHigh unit = false) (rest : Text) :
    stringBody opening (.char '\\' :: .char 'u' :: a :: b :: c :: d :: x :: rest) =
      prepend (.ofCode unit) (stringBody opening (x :: rest)) := by
  rw [stringBody.eq_def]
  dsimp only
  rw [if_neg (by decide), if_pos rfl]
  simp only [if_true, h, hhigh, Bool.false_eq_true, if_false]

theorem stringBody_pair {a b c d a' b' c' d' z : Symbol} {high low : Nat}
    (h : codeUnit? a b c d = some high) (h' : codeUnit? a' b' c' d' = some low)
    (hhigh : isHigh high = true) (hlow : isLow low = true) (rest : Text) :
    stringBody opening (.char '\\' :: .char 'u' :: a :: b :: c :: d :: .char '\\' :: .char 'u' ::
        a' :: b' :: c' :: d' :: z :: rest) =
      prepend (joinPair high low) (stringBody opening (z :: rest)) := by
  rw [stringBody.eq_def]
  dsimp only
  rw [if_neg (by decide), if_pos rfl]
  simp only [if_true, h, h', hhigh, hlow, and_self]

/-- A text that does not begin with the escape of a second half of a pair. -/
def Parted (t : Text) : Prop :=
  ∀ a b c d z rest, t = .char '\\' :: .char 'u' :: a :: b :: c :: d :: z :: rest →
    ∃ unit, codeUnit? a b c d = some unit ∧ isLow unit = false

theorem stringBody_high {a b c d x : Symbol} {unit : Nat} {rest : Text}
    (h : codeUnit? a b c d = some unit) (hhigh : isHigh unit = true)
    (hparted : Parted (x :: rest)) :
    stringBody opening (.char '\\' :: .char 'u' :: a :: b :: c :: d :: x :: rest) =
      prepend (.ofCode unit) (stringBody opening (x :: rest)) := by
  rw [stringBody.eq_def]
  dsimp only
  rw [if_neg (by decide), if_pos rfl]
  simp only [if_true, h, hhigh]
  split
  · next y a' b' c' d' z rest' =>
    split
    · next hxy =>
      obtain ⟨rfl, rfl⟩ := hxy
      obtain ⟨unit', hunit', hlow⟩ := hparted _ _ _ _ _ _ rfl
      simp only [hunit', hlow, Bool.false_eq_true, if_false]
    · rfl
  · rfl

/-! ## Reading what is written -/

theorem joinPair_halves {n : Nat} (h : 0x10000 ≤ n) :
    joinPair (0xD800 + (n - 0x10000) / 0x400) (0xDC00 + (n - 0x10000) % 0x400) =
      Symbol.ofCode n := by
  rw [joinPair]
  exact congrArg Symbol.ofCode (by omega)

inductive Written : Symbol → List Char → Prop
  | escaped {s : Symbol} {e : Char} (h : simpleEscape? (.char e) = some s) : Written s ['\\', e]
  | plain {c : Char} (hquote : c ≠ '"') (hback : c ≠ '\\') (h : 0x20 ≤ c.toNat) :
    Written (.char c) [c]
  | unit {s : Symbol} {a b c d : Char}
      (h : codeUnit? (.char a) (.char b) (.char c) (.char d) = some s.code) :
    Written s ['\\', 'u', a, b, c, d]
  | pair {high low : Nat} {a b c d a' b' c' d' : Char}
      (h : codeUnit? (.char a) (.char b) (.char c) (.char d) = some high)
      (h' : codeUnit? (.char a') (.char b') (.char c') (.char d') = some low)
      (hhigh : isHigh high = true) (hlow : isLow low = true) :
    Written (joinPair high low) ['\\', 'u', a, b, c, d, '\\', 'u', a', b', c', d']

inductive WrittenText : Text → List Char → Prop
  | nil : WrittenText [] []
  | cons {s : Symbol} {t : Text} {cs cs' : List Char} (hs : Written s cs)
      (ht : WrittenText t cs') : WrittenText (s :: t) (cs ++ cs')

theorem written_pair {s : Symbol} (h : 0x10000 ≤ s.code) :
    Written s (Writer.codeUnit (0xD800 + (s.code - 0x10000) / 0x400) ++
      Writer.codeUnit (0xDC00 + (s.code - 0x10000) % 0x400)) := by
  have hlt := s.code_lt
  have hhigh := codeUnit?_digits (n := 0xD800 + (s.code - 0x10000) / 0x400) (by omega)
  have hlow := codeUnit?_digits (n := 0xDC00 + (s.code - 0x10000) % 0x400) (by omega)
  have hwritten := Written.pair hhigh hlow (by simp [isHigh]; omega) (by simp [isLow]; omega)
  rwa [joinPair_halves h, Symbol.ofCode_code] at hwritten

theorem written_symbol (s : Symbol) : Written s (Writer.symbol s) := by
  have hescaped {c e : Char} (h : s.code = Symbol.code (.char c))
      (he : simpleEscape? (.char e) = some (.char c)) : Written s ['\\', e] := by
    obtain rfl : s = .char c := Symbol.code_injective h
    exact .escaped he
  rw [Writer.symbol]
  split
  · next h => exact hescaped (c := '"') h rfl
  split
  · next h => exact hescaped (c := '\\') h rfl
  split
  · next h => exact hescaped (c := '\n') h rfl
  split
  · next h => exact hescaped (c := '\r') h rfl
  split
  · next h => exact hescaped (c := '\t') h rfl
  split
  · next h => exact hescaped (c := '\x0c') h rfl
  split
  · next h => exact hescaped (c := '\x08') h rfl
  split
  · next hquote hback _ _ _ _ _ hprintable =>
    cases s with
    | char c =>
      rw [show Char.ofNat (Symbol.char c).code = c from Char.ofNat_toNat c]
      refine .plain ?_ ?_ hprintable.1
      · rintro rfl
        exact hquote rfl
      · rintro rfl
        exact hback rfl
    | surrogate n =>
      have hcode : Symbol.code (.surrogate n) = 0xD800 + n.val := rfl
      omega
  split
  · next hsmall => exact .unit (codeUnit?_digits hsmall)
  · next hlarge => exact written_pair (Nat.le_of_not_lt hlarge)

theorem writtenText_flatMap (t : Text) : WrittenText t (t.flatMap Writer.symbol) := by
  induction t with
  | nil => exact .nil
  | cons s t ih => exact .cons (written_symbol s) ih

theorem le_of_mem_codeUnit {n : Nat} {c : Char} (h : c ∈ Writer.codeUnit n) : 0x20 ≤ c.toNat := by
  have hdigit : ∀ m : Fin 16, 0x20 ≤ (Nat.digitChar m).toNat := by decide
  have hlt (m : Nat) : m % 16 < 16 := Nat.mod_lt _ (by decide)
  simp only [Writer.codeUnit, List.mem_cons, List.not_mem_nil, or_false] at h
  rcases h with rfl | rfl | rfl | rfl | rfl | rfl
  · decide
  · decide
  · exact hdigit ⟨_, hlt _⟩
  · exact hdigit ⟨_, hlt _⟩
  · exact hdigit ⟨_, hlt _⟩
  · exact hdigit ⟨_, hlt _⟩

theorem le_of_mem_symbol {s : Symbol} {c : Char} (h : c ∈ Writer.symbol s) : 0x20 ≤ c.toNat := by
  have hsimple (e : Char) (he : 0x20 ≤ e.toNat) (hmem : c ∈ ['\\', e]) : 0x20 ≤ c.toNat := by
    simp only [List.mem_cons, List.not_mem_nil, or_false] at hmem
    rcases hmem with rfl | rfl
    · decide
    · exact he
  rw [Writer.symbol] at h
  iterate 7
    split at h
    · exact hsimple _ (by decide) h
  split at h
  · next hprintable =>
    rw [List.mem_singleton.1 h]
    have hsymbol := Symbol.char_ofNat_code (s := s) (by omega)
    have hcode : s.code = (Char.ofNat s.code).toNat := congrArg Symbol.code hsymbol.symm
    omega
  · split at h
    · exact le_of_mem_codeUnit h
    · exact (List.mem_append.1 h).elim le_of_mem_codeUnit le_of_mem_codeUnit

/-- A symbol that is written is read, if it is not mistaken for the first half of a pair. -/
theorem stringBody_written {s x : Symbol} {cs : List Char} {rest : Text} (h : Written s cs)
    (hparted : isHigh s.code = true → Parted (x :: rest)) :
    stringBody opening (cs.map .char ++ x :: rest) =
      prepend s (stringBody opening (x :: rest)) := by
  cases h with
  | escaped h => exact stringBody_simple h _
  | @plain c hquote hback h =>
    have hcode : 0x20 ≤ Symbol.code (.char c) := h
    exact stringBody_plain (fun heq => hquote (Symbol.char.inj heq))
      (fun heq => hback (Symbol.char.inj heq)) hcode _
  | unit h =>
    conv => rhs; rw [← s.ofCode_code]
    cases hhigh : isHigh s.code with
    | false => exact stringBody_unit h hhigh _
    | true => exact stringBody_high h hhigh (hparted hhigh)
  | pair h h' hhigh hlow => exact stringBody_pair h h' hhigh hlow _

theorem isLow_of_isHigh {unit : Nat} (h : isHigh unit = true) : isLow unit = false := by
  simp only [isHigh, Bool.and_eq_true, decide_eq_true_eq] at h
  simp only [isLow, Bool.and_eq_false_iff, decide_eq_false_iff_not]
  omega

/-- Only the second half of a pair is written as one. -/
theorem parted_written {s : Symbol} {cs : List Char} (h : Written s cs)
    (hlow : isLow s.code = false) (rest : Text) : Parted (cs.map .char ++ rest) := by
  intro a b c d z rest' heq
  cases h with
  | escaped he =>
    obtain ⟨rfl, -⟩ := by simpa using heq
    cases he
  | plain hquote hback hcode =>
    obtain ⟨rfl, -⟩ := by simpa using heq
    exact absurd rfl hback
  | unit h =>
    obtain ⟨rfl, rfl, rfl, rfl, -⟩ := by simpa using heq
    exact ⟨_, h, hlow⟩
  | pair h h' hhigh hlow' =>
    obtain ⟨rfl, rfl, rfl, rfl, -⟩ := by simpa using heq
    exact ⟨_, h, isLow_of_isHigh hhigh⟩

/-- No first half of a pair of surrogates stands directly in front of a second half. -/
def Joined (t : Text) : Prop :=
  t.IsChain fun a b => ¬(isHigh a.code = true ∧ isLow b.code = true)

theorem parted_body {s : Symbol} {t : Text} {cs : List Char} (ht : WrittenText t cs)
    (h : Joined (s :: t)) (hhigh : isHigh s.code = true) (rest : Text) :
    Parted (cs.map .char ++ .char '"' :: rest) := by
  cases ht with
  | nil =>
    intro a b c d z rest' heq
    cases heq
  | cons hs' ht =>
    rw [List.map_append, List.append_assoc]
    refine parted_written hs' ?_ _
    have hnot := (List.isChain_cons_cons.1 h).1
    rw [← Bool.not_eq_true]
    exact fun hlow => hnot ⟨hhigh, hlow⟩

theorem WrittenText.stringBody {t : Text} {cs : List Char} (ht : WrittenText t cs) (h : Joined t)
    (rest : Text) : stringBody opening (cs.map .char ++ .char '"' :: rest) = .ok (t, rest) := by
  induction ht with
  | nil => exact stringBody_quote rest
  | @cons s t cs cs' hs ht ih =>
    have hparted (hhigh : isHigh s.code = true) := parted_body ht h hhigh rest
    have htail := ih h.tail
    rw [List.map_append, List.append_assoc]
    cases hbody : cs'.map Symbol.char ++ .char '"' :: rest with
    | nil => simp at hbody
    | cons x rest' =>
      rw [hbody] at hparted htail
      rw [stringBody_written hs hparted, htail]
      rfl

/-! ## Strings that are read -/

theorem joined_cons {s : Symbol} {t : Text} (ht : Joined t)
    (h : isHigh s.code = true → ∀ a t', t = a :: t' → isLow a.code = false) : Joined (s :: t) := by
  cases t with
  | nil => exact List.isChain_singleton s
  | cons a t =>
    refine List.isChain_cons_cons.2 ⟨fun hs => ?_, ht⟩
    rw [h hs.1 a t rfl] at hs
    cases hs.2

theorem prepend_eq_ok_iff {s : Symbol} {r : Result Text} {t rest : Text} :
    prepend s r = .ok (t, rest) ↔ ∃ t', t = s :: t' ∧ r = .ok (t', rest) := by
  rw [prepend.eq_def]
  split
  · constructor
    · intro h
      cases h
      exact ⟨_, rfl, rfl⟩
    · rintro ⟨t', rfl, h⟩
      cases h
      rfl
  · constructor
    · intro h
      cases h
    · rintro ⟨t', rfl, h⟩
      cases h

def Whole (t : Text) : Prop := ∀ s ∈ t, s.isSurrogate = false

theorem isSurrogate_of_isHigh {s : Symbol} (h : isHigh s.code = true) : s.isSurrogate = true := by
  simp only [isHigh, Bool.and_eq_true, decide_eq_true_eq] at h
  rw [s.isSurrogate_eq, Bool.and_eq_true, decide_eq_true_eq, decide_eq_true_eq]
  omega

theorem isSurrogate_of_isLow {s : Symbol} (h : isLow s.code = true) : s.isSurrogate = true := by
  simp only [isLow, Bool.and_eq_true, decide_eq_true_eq] at h
  rw [s.isSurrogate_eq, Bool.and_eq_true, decide_eq_true_eq, decide_eq_true_eq]
  omega

theorem joined_cons_of_char {s : Symbol} {t : Text} (h : Joined t) (hs : s.isSurrogate = false) :
    Joined (s :: t) := by
  refine joined_cons h fun hhigh => ?_
  rw [isSurrogate_of_isHigh hhigh] at hs
  cases hs

theorem joined_of_whole {t : Text} (h : Whole t) : Joined t := by
  induction t with
  | nil => exact List.isChain_nil
  | cons s t ih =>
    exact joined_cons_of_char (ih fun s' hs' => h s' (List.mem_cons_of_mem _ hs'))
      (h s (List.mem_cons_self ..))

theorem whole_ofString (s : String) : Whole (Text.ofString s) := by
  intro symbol hsymbol
  obtain ⟨c, -, rfl⟩ := List.mem_map.1 hsymbol
  rfl

theorem joined_ofString (s : String) : Joined (Text.ofString s) :=
  joined_of_whole (whole_ofString s)

theorem isSurrogate_of_simpleEscape? {e s : Symbol} (h : simpleEscape? e = some s) :
    s.isSurrogate = false := by
  rw [simpleEscape?.eq_def] at h
  split at h <;> cases h <;> rfl

theorem hexValue?_lt {s : Symbol} {n : Nat} (h : hexValue? s = some n) : n < 16 := by
  cases s with
  | surrogate m => cases h
  | char c =>
    simp only [hexValue?, Char.le_def, UInt32.le_iff_toNat_le] at h
    split at h
    · next hc =>
      cases h
      have : c.val.toNat ≤ 57 := hc.2
      show c.val.toNat - 48 < 16
      omega
    · split at h
      · next hc =>
        cases h
        have : c.val.toNat ≤ 102 := hc.2
        show c.val.toNat - 87 < 16
        omega
      · split at h
        · next hc =>
          cases h
          have : c.val.toNat ≤ 70 := hc.2
          show c.val.toNat - 55 < 16
          omega
        · cases h

theorem codeUnit?_lt {a b c d : Symbol} {unit : Nat} (h : codeUnit? a b c d = some unit) :
    unit < 65536 := by
  simp only [codeUnit?, Option.bind_eq_bind, Option.bind_eq_some_iff, Option.pure_def,
    Option.some.injEq] at h
  obtain ⟨p, hp, q, hq, r, hr, s, hs, rfl⟩ := h
  have := hexValue?_lt hp
  have := hexValue?_lt hq
  have := hexValue?_lt hr
  have := hexValue?_lt hs
  omega

theorem code_joinPair {high low : Nat} (hhigh : isHigh high = true) (hlow : isLow low = true) :
    0x10000 ≤ (joinPair high low).code := by
  simp only [isHigh, isLow, Bool.and_eq_true, decide_eq_true_eq] at hhigh hlow
  rw [joinPair, Symbol.code_ofCode (by omega)]
  omega

theorem isSurrogate_joinPair {high low : Nat} (hhigh : isHigh high = true)
    (hlow : isLow low = true) : (joinPair high low).isSurrogate = false := by
  have := code_joinPair hhigh hlow
  rw [Symbol.isSurrogate_eq, Bool.and_eq_false_iff, decide_eq_false_iff_not,
    decide_eq_false_iff_not]
  omega

/-- The second half of a pair alone at the beginning of a string comes from its own escape. -/
theorem escape_of_isLow {t s rest : Text} {a : Symbol} (ht : Whole t)
    (h : stringBody opening t = .ok (a :: s, rest)) (ha : isLow a.code = true) :
    ∃ b c d e x t', t = .char '\\' :: .char 'u' :: b :: c :: d :: e :: x :: t' ∧
      codeUnit? b c d e = some a.code := by
  have hsurrogate := isSurrogate_of_isLow ha
  have hcode {b c d e : Symbol} {unit : Nat} (hunit : codeUnit? b c d e = some unit) :
      codeUnit? b c d e = some (Symbol.ofCode unit).code := by
    rw [Symbol.code_ofCode (by have := codeUnit?_lt hunit; omega), hunit]
  fun_induction stringBody opening t
  case case6 hunit hhigh _ _ _ _ _ _ _ _ _ hunit' hlow _ _ =>
    obtain ⟨_, heq, -⟩ := prepend_eq_ok_iff.1 h
    rw [(List.cons.inj heq).1, isSurrogate_joinPair hhigh hlow] at hsurrogate
    cases hsurrogate
  case case7 hunit _ _ _ _ _ _ _ _ _ _ _ _ _ _ | case8 hunit _ _ _ _ _ _ _ _ _ _ _ |
      case9 hunit _ _ _ _ _ | case10 hunit _ _ _ =>
    obtain ⟨_, heq, -⟩ := prepend_eq_ok_iff.1 h
    obtain rfl := (List.cons.inj heq).1
    exact ⟨_, _, _, _, _, _, rfl, hcode hunit⟩
  case case12 hescape _ _ =>
    obtain ⟨_, heq, -⟩ := prepend_eq_ok_iff.1 h
    obtain rfl := (List.cons.inj heq).1
    rw [isSurrogate_of_simpleEscape? hescape] at hsurrogate
    cases hsurrogate
  case case15 =>
    obtain ⟨_, heq, -⟩ := prepend_eq_ok_iff.1 h
    obtain rfl := (List.cons.inj heq).1
    rw [ht a (List.mem_cons_self ..)] at hsurrogate
    cases hsurrogate
  all_goals cases h

theorem Whole.drop {t : Text} (h : Whole t) (n : Nat) : Whole (t.drop n) :=
  fun s hs => h s (List.mem_of_mem_drop hs)

theorem joined_cons_of_parted {s : Symbol} {t t' rest : Text} (ht : Whole t) (hparted : Parted t)
    (h : stringBody opening t = .ok (t', rest)) (hjoined : Joined t') : Joined (s :: t') := by
  refine joined_cons hjoined fun _ a t'' heq => ?_
  subst heq
  rw [← Bool.not_eq_true]
  intro ha
  obtain ⟨_, _, _, _, _, _, heq, hcode⟩ := escape_of_isLow ht h ha
  obtain ⟨unit, hunit, hlow⟩ := hparted _ _ _ _ _ _ heq
  cases hunit.symm.trans hcode
  rw [hlow] at ha
  cases ha

/-- The strings of a text without surrogates hold no pair of surrogates. -/
theorem joined_of_stringBody {t s rest : Text} (ht : Whole t)
    (h : stringBody opening t = .ok (s, rest)) : Joined s := by
  fun_induction stringBody opening t generalizing s
  case case2 =>
    cases h
    exact List.isChain_nil
  case case6 hunit hhigh _ _ _ _ _ _ _ _ _ hunit' hlow _ ih =>
    obtain ⟨t', rfl, hrest⟩ := prepend_eq_ok_iff.1 h
    exact joined_cons_of_char (ih (ht.drop 12) hrest) (isSurrogate_joinPair hhigh hlow)
  -- behind the first half of a pair stands an escape of something else, or none
  case case7 hunit _ _ _ _ _ _ _ _ hxy _ hunit' hlow _ ih =>
    obtain ⟨t', rfl, hrest⟩ := prepend_eq_ok_iff.1 h
    refine joined_cons_of_parted (ht.drop 6) ?_ hrest (ih (ht.drop 6) hrest)
    intro _ _ _ _ _ _ heq
    cases heq
    exact ⟨_, hunit', (Bool.not_eq_true _).mp hlow⟩
  case case8 hunit _ _ _ _ _ _ _ _ hxy _ ih =>
    obtain ⟨t', rfl, hrest⟩ := prepend_eq_ok_iff.1 h
    refine joined_cons_of_parted (ht.drop 6) ?_ hrest (ih (ht.drop 6) hrest)
    intro _ _ _ _ _ _ heq
    cases heq
    exact absurd ⟨rfl, rfl⟩ hxy
  case case9 hunit _ _ hshort _ ih =>
    obtain ⟨t', rfl, hrest⟩ := prepend_eq_ok_iff.1 h
    refine joined_cons_of_parted (ht.drop 6) ?_ hrest (ih (ht.drop 6) hrest)
    intro _ _ _ _ _ _ heq
    cases heq
    exact absurd rfl (hshort _ _ _ _ _ _ _)
  case case10 hunit hhigh _ ih =>
    obtain ⟨t', rfl, hrest⟩ := prepend_eq_ok_iff.1 h
    refine joined_cons (ih (ht.drop 6) hrest) fun hs => ?_
    rw [Symbol.code_ofCode (by have := codeUnit?_lt hunit; omega)] at hs
    exact absurd hs hhigh
  case case12 hescape _ ih =>
    obtain ⟨t', rfl, hrest⟩ := prepend_eq_ok_iff.1 h
    exact joined_cons_of_char (ih (ht.drop 2) hrest) (isSurrogate_of_simpleEscape? hescape)
  case case15 ih =>
    obtain ⟨t', rfl, hrest⟩ := prepend_eq_ok_iff.1 h
    exact joined_cons_of_char (ih (ht.drop 1) hrest) (ht _ (List.mem_cons_self ..))
  all_goals cases h

end Json

end CredentialHelper
