/-!
# Text with unpaired surrogates

A text escaped as UTF-16 code units can name one half of a surrogate pair without the other, and
such a half is no character. `Text` keeps it: a text is a list of characters and unpaired halves,
and `Text.toString?` says which texts are ordinary strings. Whatever a user gives is a text, and a
string stands for the text that it is.
-/

namespace CredentialHelper

/-- One element of a text: a character, or a surrogate code unit `0xD800 + n` without its partner.
-/
inductive Symbol where
  | char (c : Char)
  | surrogate (n : Fin 2048)
  deriving DecidableEq, Repr, Inhabited

namespace Symbol

/-- The code point, which for an unpaired surrogate is its code unit. -/
def code : Symbol → Nat
  | .char c => c.toNat
  | .surrogate n => 0xD800 + n.val

def char? : Symbol → Option Char
  | .char c => some c
  | .surrogate _ => none

def isIn (cls : Char → Bool) : Symbol → Bool
  | .char c => cls c
  | .surrogate _ => false

def isNot (c : Char) (s : Symbol) : Bool := s != .char c

def isSurrogate : Symbol → Bool
  | .char _ => false
  | .surrogate _ => true

instance : Coe Char Symbol := ⟨.char⟩

/-- The symbol of a code point; numbers past the last code point give U+FFFD. -/
def ofCode (n : Nat) : Symbol :=
  if h : 0xD800 ≤ n ∧ n < 0xE000 then .surrogate ⟨n - 0xD800, by omega⟩
  else if n < 0x110000 then .char (Char.ofNat n)
  else .char '\ufffd'

/-! ## Code points -/

theorem code_lt (s : Symbol) : s.code < 0x110000 := by
  cases s with
  | char c =>
    have := c.valid
    simp only [code, Char.toNat, UInt32.isValidChar, Nat.isValidChar] at *
    omega
  | surrogate n =>
    have := n.isLt
    simp only [code]
    omega

theorem ofCode_code (s : Symbol) : ofCode s.code = s := by
  cases s with
  | char c =>
    have hvalid := c.valid
    have hnot : ¬(0xD800 ≤ c.toNat ∧ c.toNat < 0xE000) := by
      simp only [Char.toNat, UInt32.isValidChar, Nat.isValidChar] at *
      omega
    have hlt : c.toNat < 0x110000 := code_lt (.char c)
    rw [code, ofCode, dif_neg hnot, if_pos hlt, Char.ofNat_toNat]
  | surrogate n =>
    have := n.isLt
    rw [code, ofCode, dif_pos (by omega)]
    simp

theorem code_injective {s t : Symbol} (h : s.code = t.code) : s = t := by
  rw [← ofCode_code s, h, ofCode_code]

theorem char_ofNat_code {s : Symbol} (h : s.code < 0xD800) : .char (Char.ofNat s.code) = s := by
  conv => rhs; rw [← s.ofCode_code]
  rw [ofCode, dif_neg (by omega), if_pos (by omega)]

theorem code_ofCode {n : Nat} (h : n < 0x110000) : (ofCode n).code = n := by
  rw [ofCode]
  split
  · next hsurrogate => exact Nat.add_sub_cancel' hsurrogate.1
  · next hnot =>
    have hvalid : n.isValidChar := by
      rw [Nat.isValidChar]
      omega
    rw [code, Char.ofNat, dif_pos hvalid]
    rfl

theorem isSurrogate_eq (s : Symbol) :
    s.isSurrogate = (decide (0xD800 ≤ s.code) && decide (s.code < 0xE000)) := by
  cases s with
  | char c =>
    have := c.valid
    simp only [UInt32.isValidChar, Nat.isValidChar] at this
    show false = (decide (0xD800 ≤ c.val.toNat) && decide (c.val.toNat < 0xE000))
    rw [eq_comm, Bool.and_eq_false_iff, decide_eq_false_iff_not, decide_eq_false_iff_not]
    omega
  | surrogate n =>
    have := n.isLt
    show true = (decide (0xD800 ≤ 0xD800 + n.val) && decide (0xD800 + n.val < 0xE000))
    rw [eq_comm, Bool.and_eq_true, decide_eq_true_eq, decide_eq_true_eq]
    omega

theorem isSurrogate_ofCode {n : Nat} (h : n < 0xD800 ∨ 0xE000 ≤ n) :
    (ofCode n).isSurrogate = false := by
  rw [ofCode, dif_neg (by omega)]
  split <;> rfl

end Symbol

/-- A text whose surrogates need not be paired. -/
abbrev Text := List Symbol

namespace Text

def ofString (s : String) : Text := s.toList.map .char

def chars? : Text → Option (List Char)
  | [] => some []
  | .char c :: rest => (chars? rest).map (c :: ·)
  | .surrogate _ :: _ => none

def toString? (t : Text) : Option String := (chars? t).map String.ofList

/-- The text with U+FFFD in place of each unpaired surrogate. -/
def toStringLossy (t : Text) : String :=
  String.ofList (t.map fun
    | .char c => c
    | .surrogate _ => '\ufffd')

instance : Coe String Text := ⟨ofString⟩

def join (separator : Text) (parts : List Text) : Text := separator.intercalate parts

/-- Whether a text comes before another or is the same, by the order of the code points. -/
def precedes : Text → Text → Bool
  | [], _ => true
  | _ :: _, [] => false
  | a :: as, b :: bs => a.code < b.code || (a.code == b.code && precedes as bs)

theorem chars?_map_char (cs : List Char) : chars? (cs.map .char) = some cs := by
  induction cs with
  | nil => rfl
  | cons c cs ih => simp [chars?, ih]

theorem toString?_ofString (s : String) : toString? (ofString s) = some s := by
  simp [toString?, ofString, chars?_map_char]

theorem ofString_injective {s t : String} (h : ofString s = ofString t) : s = t := by
  have := congrArg toString? h
  simpa [toString?_ofString] using this

theorem ofString_eq_iff {s t : String} : ofString s = ofString t ↔ s = t :=
  ⟨ofString_injective, congrArg ofString⟩

end Text

end CredentialHelper
