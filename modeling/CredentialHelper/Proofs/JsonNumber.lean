import CredentialHelper.Proofs.JsonString
import Mathlib.Algebra.Group.Nat.Defs

/-!
# Numbers in JSON

An integer that is written is read back.  A floating-point number is written as one and read as one:
`rereadFloat` is the number that its text stands for.  What follows a number must not belong to
it, which `Delimited` says of everything that may stand behind a value.
-/

namespace CredentialHelper

namespace Json

open Reader

/-! ## Digits -/

/-- Whether a symbol can stand behind a value: a blank, a comma or a closing bracket. -/
def isDelimiter (s : Symbol) : Bool :=
  isSpace s || s == .char ',' || s == .char ']' || s == .char '\x7d'

/-- What may follow a value in a document: nothing, or a delimiter. -/
def Delimited (rest : Text) : Prop := ∀ s ∈ rest.head?, isDelimiter s = true

def Digits (ds : List Char) : Prop := ∀ c ∈ ds, c.isDigit = true

def NoDigit (rest : Text) : Prop := ∀ s ∈ rest.head?, isDigit s = false

theorem isDigit_of_isDelimiter {s : Symbol} (h : isDelimiter s = true) : isDigit s = false := by
  simp only [isDelimiter, isSpace, Bool.or_eq_true, beq_iff_eq] at h
  obtain (((((rfl | rfl) | rfl) | rfl) | rfl) | rfl) | rfl := h <;> rfl

theorem Delimited.noDigit {rest : Text} (h : Delimited rest) : NoDigit rest :=
  fun s hs => isDigit_of_isDelimiter (h s hs)

theorem Delimited.head?_ne {rest : Text} (h : Delimited rest) {c : Char}
    (hc : isDelimiter (.char c) = false) : rest.head? ≠ some (.char c) := by
  intro hhead
  rw [h _ hhead] at hc
  cases hc

theorem noDigit_cons {c : Char} (h : c.isDigit = false) (rest : Text) :
    NoDigit (.char c :: rest) := by
  rintro s ⟨⟩
  exact h

theorem digits_append {ds : List Char} (hds : Digits ds) {rest : Text} (hrest : NoDigit rest) :
    digits (ds.map .char ++ rest) = (ds.map .char, rest) := by
  have hall : ∀ s ∈ ds.map Symbol.char, isDigit s = true := by
    intro s hs
    obtain ⟨c, hc, rfl⟩ := List.mem_map.1 hs
    exact hds c hc
  rw [digits, List.takeWhile_append_of_pos hall, List.dropWhile_append_of_pos hall]
  cases rest with
  | nil => simp
  | cons s rest =>
    have hs := hrest s rfl
    simp [hs]

theorem digitsValue_map (ds : List Char) :
    digitsValue (ds.map .char) = Nat.ofDigitChars 10 ds 0 := by
  rw [digitsValue, Nat.ofDigitChars_eq_foldl, List.foldl_map]
  congr 1
  funext n c
  rw [Nat.mul_comm]
  rfl

theorem digits_toDigits (n : Nat) : Digits (Nat.toDigits 10 n) :=
  fun _ h => Nat.isDigit_of_mem_toDigits (by decide) (by decide) h

theorem toDigits_eq_cons {n : Nat} (h : 0 < n) :
    ∃ c cs, Nat.toDigits 10 n = c :: cs ∧ c ≠ '0' := by
  induction n using Nat.strongRecOn with
  | ind n ih =>
    rw [Nat.toDigits_eq_if (by decide)]
    split
    · next hlt => exact ⟨_, _, rfl, by simpa using Nat.pos_iff_ne_zero.1 h⟩
    · next hge =>
      obtain ⟨c, cs, hcs, hc⟩ := ih (n / 10) (by omega) (by omega)
      exact ⟨c, _, by rw [hcs, List.cons_append], hc⟩

/-! ## Scalars that are numbers -/

theorem word?_eq_none {word : String} {w s : Symbol} {ws t : Text}
    (hword : Text.ofString word = w :: ws) (h : s ≠ w) : word? word (s :: t) = none := by
  rw [word?, hword]
  exact if_neg fun heq => h (List.cons.inj heq).1

theorem word?_eq_none' {word : String} {w w' s s' : Symbol} {ws t : Text}
    (hword : Text.ofString word = w :: w' :: ws) (h : s' ≠ w') :
    word? word (s :: s' :: t) = none := by
  rw [word?, hword]
  exact if_neg fun heq => h (List.cons.inj (List.cons.inj heq).2).1

theorem scalar_digit {c : Char} (h : c.isDigit = true) (t : Text) :
    scalar (.char c :: t) = number (t.length + 1) false (.char c :: t) := by
  have hne {c' : Char} (hc' : c'.isDigit = false) : Symbol.char c ≠ .char c' := by
    rintro ⟨⟩
    rw [h] at hc'
    cases hc'
  rw [scalar, word?_eq_none rfl (hne (by decide)), word?_eq_none rfl (hne (by decide)),
    word?_eq_none rfl (hne (by decide)), word?_eq_none rfl (hne (by decide)),
    word?_eq_none rfl (hne (by decide)), word?_eq_none rfl (hne (by decide))]
  · rfl
  · intro rest heq
    exact hne (by decide) (List.cons.inj heq).1

theorem scalar_minus {c : Char} (h : c.isDigit = true) (t : Text) :
    scalar (.char '-' :: .char c :: t) = number (t.length + 2) true (.char c :: t) := by
  have hne : Symbol.char c ≠ .char 'I' := by
    rintro ⟨⟩
    cases h
  rw [scalar, word?_eq_none rfl (by decide), word?_eq_none rfl (by decide),
    word?_eq_none rfl (by decide), word?_eq_none rfl (by decide), word?_eq_none rfl (by decide),
    word?_eq_none' rfl hne]
  rfl

/-! ## The parts of a number -/

/-- The digits in front of a point: a zero alone, or digits that do not begin with one. -/
inductive WholePart : List Char → Prop
  | zero : WholePart ['0']
  | digits {c : Char} {cs : List Char} (hc : c ≠ '0') (hds : Digits (c :: cs)) : WholePart (c :: cs)

theorem wholePart_toDigits (n : Nat) : WholePart (Nat.toDigits 10 n) := by
  rcases Nat.eq_zero_or_pos n with rfl | h
  · exact .zero
  · obtain ⟨c, cs, hcs, hc⟩ := toDigits_eq_cons h
    rw [hcs]
    exact .digits hc (hcs ▸ digits_toDigits n)

theorem integerDigits_append {ds : List Char} (h : WholePart ds) {rest : Text}
    (hrest : NoDigit rest) : integerDigits (ds.map .char ++ rest) = (ds.map .char, rest) := by
  cases h with
  | zero => rfl
  | @digits c cs hc hds =>
    rw [List.map_cons, List.cons_append, integerDigits.eq_def]
    split
    · next heq => exact absurd (Symbol.char.inj (List.cons.inj heq).1) hc
    · exact digits_append hds hrest

theorem fraction_of_no_point {rest : Text} (h : rest.head? ≠ some (.char '.')) :
    fraction rest = (none, rest) := by
  rw [fraction.eq_def]
  split
  · exact absurd rfl h
  · rfl

theorem fraction_append {ds : List Char} (hds : Digits ds) (hne : ds ≠ []) {rest : Text}
    (hrest : NoDigit rest) :
    fraction (.char '.' :: (ds.map .char ++ rest)) = (some (ds.map .char), rest) := by
  simp only [fraction, digits_append hds hrest]
  cases ds with
  | nil => exact absurd rfl hne
  | cons c cs => rfl

theorem exponent_of_no_e {rest : Text}
    (h : rest.head? ≠ some (.char 'e') ∧ rest.head? ≠ some (.char 'E')) :
    exponent rest = (none, rest) := by
  rw [exponent.eq_def]
  split
  · next e rest =>
    have hne : ¬(e = 'e' ∨ e = 'E') := by
      rintro (rfl | rfl)
      · exact h.1 rfl
      · exact h.2 rfl
    rw [if_neg hne]
  · rfl

theorem exponent_append {ds : List Char} (hds : Digits ds) (hne : ds ≠ []) {rest : Text}
    (hrest : NoDigit rest) (negative : Bool) :
    exponent (.char 'e' :: .char (if negative then '-' else '+') :: (ds.map .char ++ rest)) =
      (some (if negative then -(Nat.ofDigitChars 10 ds 0 : Int) else Nat.ofDigitChars 10 ds 0),
        rest) := by
  cases ds with
  | nil => exact absurd rfl hne
  | cons c cs =>
    have hvalue := digitsValue_map (c :: cs)
    cases negative <;>
    · simp only [exponent, true_or, if_true, Bool.false_eq_true, if_false, digits_append hds hrest]
      rw [← hvalue]
      rfl

/-! ## Whole numbers -/

theorem number_integer {ds : List Char} (h : WholePart ds) (hlength : ds.length ≤ maxDigits)
    {rest : Text} (hrest : Delimited rest) (whole : Nat) (negative : Bool) :
    number whole negative (ds.map .char ++ rest) =
      .ok (.int (if negative then -(Nat.ofDigitChars 10 ds 0 : Int) else Nat.ofDigitChars 10 ds 0),
        rest) := by
  have hne : ds ≠ [] := by
    cases h <;> exact List.cons_ne_nil _ _
  have hfraction : fraction rest = (none, rest) :=
    fraction_of_no_point (hrest.head?_ne (by decide))
  have hexponent : exponent rest = (none, rest) :=
    exponent_of_no_e ⟨hrest.head?_ne (by decide), hrest.head?_ne (by decide)⟩
  rw [number, integerDigits_append h hrest.noDigit]
  simp only [List.isEmpty_iff, List.map_eq_nil_iff, hne, if_false, hfraction, hexponent,
    Option.isNone_none, Bool.and_self, if_true, List.length_map, digitsValue_map,
    Nat.not_lt.2 hlength]

theorem number_float {ds : List Char} (h : WholePart ds) {rest rest' rest'' : Text}
    {places : Option Text} {power : Option Int} (hrest : NoDigit rest)
    (hfraction : fraction rest = (places, rest')) (hexponent : exponent rest' = (power, rest''))
    (hsome : (places.isNone && power.isNone) = false) (whole : Nat) (negative : Bool) :
    number whole negative (ds.map .char ++ rest) =
      .ok (.float (Binary64.ofDecimal negative (digitsValue (ds.map .char ++ places.getD []))
        (power.getD 0 - (places.getD []).length)), rest'') := by
  have hne : ds ≠ [] := by
    cases h <;> exact List.cons_ne_nil _ _
  rw [number, integerDigits_append h hrest]
  simp only [List.isEmpty_iff, List.map_eq_nil_iff, hne, if_false, hfraction, hexponent, hsome,
    Bool.false_eq_true]

theorem WholePart.exists_cons {ds : List Char} (h : WholePart ds) :
    ∃ c cs, ds = c :: cs ∧ c.isDigit = true := by
  cases h with
  | zero => exact ⟨_, _, rfl, rfl⟩
  | @digits c cs hc hds => exact ⟨c, cs, rfl, hds c (by simp)⟩

theorem scalar_whole {ds : List Char} (h : WholePart ds) (hlength : ds.length ≤ maxDigits)
    {rest : Text} (hrest : Delimited rest) :
    scalar (ds.map .char ++ rest) = .ok (.int (Nat.ofDigitChars 10 ds 0), rest) := by
  have hnumber := number_integer h hlength hrest
  obtain ⟨c, cs, rfl, hc⟩ := h.exists_cons
  exact (scalar_digit hc _).trans (hnumber _ false)

theorem scalar_negative {ds : List Char} (h : WholePart ds) (hlength : ds.length ≤ maxDigits)
    {rest : Text} (hrest : Delimited rest) :
    scalar (.char '-' :: (ds.map .char ++ rest)) =
      .ok (.int (-(Nat.ofDigitChars 10 ds 0 : Int)), rest) := by
  have hnumber := number_integer h hlength hrest
  obtain ⟨c, cs, rfl, hc⟩ := h.exists_cons
  exact (scalar_minus hc _).trans (hnumber _ true)

/-- An integer of at most as many digits as are read. -/
def Short (n : Int) : Prop := (Nat.toDigits 10 n.natAbs).length ≤ maxDigits

theorem integer_natCast (n : Nat) : Writer.integer n = Nat.toDigits 10 n := by
  rw [Writer.integer, Int.toString_eq_repr, Int.repr_eq_if, if_pos (Int.natCast_nonneg n),
    Nat.toList_repr, Int.toNat_natCast]

theorem integer_negSucc (n : Nat) :
    Writer.integer (Int.negSucc n) = '-' :: Nat.toDigits 10 (n + 1) := by
  rw [Writer.integer, Int.toString_eq_repr, Int.repr_eq_if, if_neg (by omega),
    String.toList_append, Nat.toList_repr]
  rfl

/-! ## Floating-point numbers -/

/-- The text of a number that is not an integer, without its sign. -/
inductive FloatText : List Char → Prop
  | point {ds fs : List Char} (hds : WholePart ds) (hfs : Digits fs) (hne : fs ≠ []) :
      FloatText (ds ++ '.' :: fs)
  | power {ds es : List Char} (hds : WholePart ds) (negative : Bool) (hes : Digits es)
      (hne : es ≠ []) : FloatText (ds ++ 'e' :: (if negative then '-' else '+') :: es)
  | pointPower {ds fs es : List Char} (hds : WholePart ds) (hfs : Digits fs) (hne : fs ≠ [])
      (negative : Bool) (hes : Digits es) (hne' : es ≠ []) :
      FloatText (ds ++ '.' :: fs ++ 'e' :: (if negative then '-' else '+') :: es)

/-- A text without a sign reads as the same number whatever follows it. -/
theorem number_of_floatText {cs : List Char} (h : FloatText cs) (negative : Bool) :
    ∃ y, ∀ whole rest, Delimited rest →
      number whole negative (cs.map .char ++ rest) = .ok (.float y, rest) := by
  cases h with
  | @point ds fs hds hfs hne =>
    exact ⟨_, fun whole rest hrest => by
      have hexponent : exponent rest = (none, rest) :=
        exponent_of_no_e ⟨hrest.head?_ne (by decide), hrest.head?_ne (by decide)⟩
      rw [List.map_append, List.append_assoc]
      exact number_float hds (noDigit_cons (by decide) _)
        (fraction_append hfs hne hrest.noDigit) hexponent rfl whole negative⟩
  | @power ds es hds minus hes hne =>
    exact ⟨_, fun whole rest hrest => by
      rw [List.map_append, List.append_assoc]
      exact number_float hds (noDigit_cons (by decide) _)
        (fraction_of_no_point (by simp)) (exponent_append hes hne hrest.noDigit minus) rfl
        whole negative⟩
  | @pointPower ds fs es hds hfs hne minus hes hne' =>
    exact ⟨_, fun whole rest hrest => by
      rw [List.append_assoc, List.cons_append, List.map_append, List.append_assoc, List.map_cons,
        List.map_append, List.cons_append, List.append_assoc]
      exact number_float hds (noDigit_cons (by decide) _)
        (fraction_append hfs hne (noDigit_cons (by decide) _))
        (exponent_append hes hne' hrest.noDigit minus) rfl whole negative⟩

theorem FloatText.exists_cons {cs : List Char} (h : FloatText cs) :
    ∃ c cs', cs = c :: cs' ∧ c.isDigit = true := by
  cases h with
  | point hds hfs hne =>
    obtain ⟨c, cs, rfl, hc⟩ := hds.exists_cons
    exact ⟨c, _, rfl, hc⟩
  | power hds negative hes hne =>
    obtain ⟨c, cs, rfl, hc⟩ := hds.exists_cons
    exact ⟨c, _, rfl, hc⟩
  | pointPower hds hfs hne negative hes hne' =>
    obtain ⟨c, cs, rfl, hc⟩ := hds.exists_cons
    exact ⟨c, _, rfl, hc⟩

theorem scalar_of_floatText {cs : List Char} (h : FloatText cs) (negative : Bool) :
    ∃ y, ∀ rest, Delimited rest →
      scalar (((if negative then ['-'] else []) ++ cs).map .char ++ rest) =
        .ok (.float y, rest) := by
  obtain ⟨y, hy⟩ := number_of_floatText h negative
  obtain ⟨c, cs, rfl, hc⟩ := h.exists_cons
  refine ⟨y, fun rest hrest => ?_⟩
  cases negative with
  | false => exact (scalar_digit hc _).trans (hy _ _ hrest)
  | true => exact (scalar_minus hc _).trans (hy _ _ hrest)

end Json

/-! ## The shortest text of a number -/

namespace Shortest

open Json

theorem dropZeros_cons {c : Char} (h : c ≠ '0') (cs : List Char) :
    ∃ cs', dropZeros (c :: cs) = c :: cs' ∧ ∀ x ∈ cs', x ∈ cs := by
  rw [dropZeros, List.reverse_cons, List.dropWhile_append]
  split
  · next hempty =>
    refine ⟨[], ?_, by simp⟩
    rw [List.dropWhile_cons_of_neg (by simpa using h)]
    rfl
  · refine ⟨(cs.reverse.dropWhile (· == '0')).reverse, by simp, fun x hx => ?_⟩
    exact List.mem_reverse.1 ((List.dropWhile_suffix _).subset (List.mem_reverse.1 hx))

theorem digits_replicate (n : Nat) : Digits (List.replicate n '0') := by
  intro c hc
  rw [(List.mem_replicate.1 hc).2]
  rfl

theorem digits_append_iff {ds es : List Char} : Digits (ds ++ es) ↔ Digits ds ∧ Digits es :=
  List.forall_mem_append

def exponentDigits (n : Nat) : List Char :=
  let size := Nat.toDigits 10 n
  if size.length < 2 then '0' :: size else size

theorem digits_exponentDigits (n : Nat) : Digits (exponentDigits n) := by
  rw [exponentDigits]
  split
  · exact List.forall_mem_cons.2 ⟨by decide, digits_toDigits n⟩
  · exact digits_toDigits n

theorem exponentDigits_ne_nil (n : Nat) : exponentDigits n ≠ [] := by
  rw [exponentDigits]
  split
  · exact List.cons_ne_nil _ _
  · exact Nat.toDigits_ne_nil

theorem toList_layout (ds : List Char) (point : Int) :
    (layout ds point).toList =
      if -4 < point ∧ point ≤ 16 then
        if point ≤ 0 then ['0'] ++ '.' :: (List.replicate (-point).toNat '0' ++ ds)
        else
          ds.take point.toNat ++ List.replicate (point.toNat - (ds.take point.toNat).length) '0' ++
            '.' :: (if (ds.drop point.toNat).isEmpty then ['0'] else ds.drop point.toNat)
      else
        ds.take 1 ++ (if ds.length ≤ 1 then [] else '.' :: ds.drop 1) ++
          'e' :: (if decide (point - 1 < 0) then '-' else '+') ::
            exponentDigits (point - 1).natAbs := by
  rw [layout]
  split
  · split
    · simp
    · dsimp only
      split <;> simp [*]
  · have hsize : (toString (point - 1).natAbs).toList = Nat.toDigits 10 (point - 1).natAbs :=
      Nat.toList_repr
    have hlength : (toString (point - 1).natAbs).length =
        (Nat.toDigits 10 (point - 1).natAbs).length := by
      rw [← hsize, String.length_toList]
    dsimp only
    rw [exponentDigits, hlength]
    simp only [String.toList_append, String.toList_ofList, apply_ite String.toList, hsize,
      decide_eq_true_eq, List.append_assoc]
    by_cases hnegative : point - 1 < 0
    · simp only [if_pos hnegative]
      split <;> rfl
    · simp only [if_neg hnegative]
      split <;> rfl

/-- Every decimal is laid out as a number that is not an integer. -/
theorem floatText_layout {c : Char} {cs : List Char} (hc : c ≠ '0') (hds : Digits (c :: cs))
    (point : Int) : FloatText (layout (c :: cs) point).toList := by
  rw [toList_layout]
  split
  · split
    · exact .point .zero (digits_append_iff.2 ⟨digits_replicate _, hds⟩) (by simp)
    · obtain ⟨k, hk⟩ : ∃ k, point.toNat = k + 1 := ⟨point.toNat - 1, by omega⟩
      rw [hk, List.take_succ_cons, List.drop_succ_cons]
      have hwhole : WholePart (c :: cs.take k ++
          List.replicate (k + 1 - (c :: cs.take k).length) '0') := by
        refine .digits hc ?_
        show Digits ((c :: cs.take k) ++ _)
        refine digits_append_iff.2 ⟨fun x hx => hds x ?_, digits_replicate _⟩
        exact List.take_subset (k + 1) (c :: cs) hx
      by_cases hrest : cs.drop k = []
      · rw [hrest]
        exact .point hwhole (digits_replicate 1) (by decide)
      · rw [if_neg (by simpa using hrest)]
        exact .point hwhole
          (fun x hx => hds x (List.mem_cons_of_mem c (List.mem_of_mem_drop hx))) hrest
  · have hone : WholePart [c] := .digits hc fun x hx => hds x (by simp_all)
    rw [List.take_succ_cons, List.take_zero, List.drop_succ_cons, List.drop_zero]
    by_cases hcs : cs = []
    · rw [if_pos (by simp [hcs]), List.append_nil]
      exact .power hone _ (digits_exponentDigits _) (exponentDigits_ne_nil _)
    · rw [if_neg (by simpa using hcs)]
      exact .pointPower hone (fun x hx => hds x (List.mem_cons_of_mem c hx)) hcs _
        (digits_exponentDigits _) (exponentDigits_ne_nil _)

theorem powerOfTwo_pos (e : Int) :
    0 < (Binary64.powerOfTwo e).1 ∧ 0 < (Binary64.powerOfTwo e).2 := by
  rw [Binary64.powerOfTwo]
  split
  · exact ⟨Nat.pow_pos (by decide), Nat.one_pos⟩
  · exact ⟨Nat.one_pos, Nat.pow_pos (by decide)⟩

/-- Zero does not round to a number whose neighbour below is not zero. -/
theorem holds_zero {i : Interval} (hlow : 0 < i.low) {den : Nat} (hden : 0 < den) :
    i.holds 0 den = false := by
  have hpos : 0 < i.low * den := Nat.mul_pos hlow hden
  rw [Interval.holds]
  split
  · simp
    omega
  · simp

theorem onGrid_pos {i : Interval} (hlow : 0 < i.low) (hvalue : 0 < i.value) (hden : 0 < i.den)
    {s : Int} {n : Nat} (h : onGrid i s = some n) : 0 < n := by
  obtain ⟨up, down, hup, hdown, hgrid⟩ : ∃ up down, 0 < up ∧ 0 < down ∧
      (if 0 ≤ s then (Nat.pow 10 s.toNat, 1) else (1, Nat.pow 10 (-s).toNat)) = (up, down) := by
    split
    · exact ⟨_, _, Nat.pow_pos (by decide), Nat.one_pos, rfl⟩
    · exact ⟨_, _, Nat.one_pos, Nat.pow_pos (by decide), rfl⟩
  have hfits {n : Nat} (h : i.holds (n * up) down = true) : 0 < n := by
    refine Nat.pos_of_ne_zero ?_
    rintro rfl
    rw [Nat.zero_mul, holds_zero hlow hdown] at h
    cases h
  have hpick {first second : Nat} (h : (if i.holds (first * up) down = true then some first
      else if i.holds (second * up) down = true then some second else none) = some n) : 0 < n := by
    split at h
    · next hfirst =>
      cases h
      exact hfits hfirst
    · split at h
      · next hsecond =>
        cases h
        exact hfits hsecond
      · cases h
  simp only [onGrid, hgrid] at h
  by_cases hexact : i.value * down % (i.den * up) = 0
  · rw [if_pos hexact] at h
    cases h
    refine Nat.div_pos (Nat.le_of_dvd (Nat.mul_pos hvalue hdown) ?_) (Nat.mul_pos hden hup)
    exact Nat.dvd_of_mod_eq_zero hexact
  · rw [if_neg hexact] at h
    exact hpick h

theorem search_pos {i : Interval} (hlow : 0 < i.low) (hvalue : 0 < i.value) (hden : 0 < i.den)
    (k : Int) (fuel count : Nat) : 0 < (search i k fuel count).1 := by
  induction fuel generalizing count with
  | zero =>
    rw [search]
    cases h : onGrid i (k - count) with
    | none => exact Nat.one_pos
    | some n => exact onGrid_pos hlow hvalue hden h
  | succ fuel ih =>
    rw [search]
    cases h : onGrid i (k - count) with
    | none => exact ih _
    | some n => exact onGrid_pos hlow hvalue hden h

theorem digits_pos {m : Nat} (hm : 0 < m) (e : Int) : 0 < (digits m e).1 := by
  rw [digits]
  refine search_pos ?_ ?_ (powerOfTwo_pos _).2 _ _ _
  · refine Nat.mul_pos ?_ (powerOfTwo_pos _).1
    split <;> omega
  · exact Nat.mul_pos (by omega) (powerOfTwo_pos _).1

end Shortest

/-! ## Words -/

namespace Json

open Reader

theorem word?_append (word : String) (rest : Text) :
    word? word (Text.ofString word ++ rest) = some rest := by
  simp [word?]

theorem word?_append_eq_none {word word' : String} {w w' : Symbol} {ws ws' : Text}
    (hword : Text.ofString word = w :: ws) (hword' : Text.ofString word' = w' :: ws')
    (h : w' ≠ w) (rest : Text) : word? word (Text.ofString word' ++ rest) = none := by
  rw [hword']
  exact word?_eq_none hword h

theorem scalar_null (rest : Text) :
    scalar ("null".toList.map .char ++ rest) = .ok (.null, rest) := by
  rw [scalar.eq_def, ← Text.ofString, word?_append]

theorem scalar_true (rest : Text) :
    scalar ("true".toList.map .char ++ rest) = .ok (.bool true, rest) := by
  rw [scalar.eq_def, ← Text.ofString, word?_append,
    word?_append_eq_none rfl rfl (by decide)]

theorem scalar_false (rest : Text) :
    scalar ("false".toList.map .char ++ rest) = .ok (.bool false, rest) := by
  rw [scalar.eq_def, ← Text.ofString, word?_append, word?_append_eq_none rfl rfl (by decide),
    word?_append_eq_none rfl rfl (by decide)]

theorem scalar_nan (rest : Text) :
    scalar ("NaN".toList.map .char ++ rest) = .ok (.float .nan, rest) := by
  rw [scalar.eq_def, ← Text.ofString, word?_append, word?_append_eq_none rfl rfl (by decide),
    word?_append_eq_none rfl rfl (by decide), word?_append_eq_none rfl rfl (by decide)]

theorem scalar_infinity (rest : Text) :
    scalar ("Infinity".toList.map .char ++ rest) = .ok (.float (.infinite false), rest) := by
  rw [scalar.eq_def, ← Text.ofString, word?_append, word?_append_eq_none rfl rfl (by decide),
    word?_append_eq_none rfl rfl (by decide), word?_append_eq_none rfl rfl (by decide),
    word?_append_eq_none rfl rfl (by decide)]

theorem scalar_minusInfinity (rest : Text) :
    scalar ("-Infinity".toList.map .char ++ rest) = .ok (.float (.infinite true), rest) := by
  rw [scalar.eq_def, ← Text.ofString, word?_append, word?_append_eq_none rfl rfl (by decide),
    word?_append_eq_none rfl rfl (by decide), word?_append_eq_none rfl rfl (by decide),
    word?_append_eq_none rfl rfl (by decide), word?_append_eq_none rfl rfl (by decide)]

/-! ## All floating-point numbers -/

theorem float_finite (negative : Bool) (m : Nat) (e : Int) :
    Writer.float (.finite negative m e) =
      (if negative then ['-'] else []) ++
        (if m = 0 then "0.0"
          else Shortest.layout (Shortest.dropZeros (Nat.toDigits 10 (Shortest.digits m e).1))
            ((Shortest.digits m e).2 +
              (Nat.toDigits 10 (Shortest.digits m e).1).length)).toList := by
  have htext : Writer.float (.finite negative m e) =
      (Binary64.finite negative m e).text.toList := rfl
  rw [htext, Binary64.text, String.toList_append]
  cases negative <;> rfl

theorem exists_floatText (negative : Bool) (m : Nat) (e : Int) :
    ∃ cs, FloatText cs ∧
      Writer.float (.finite negative m e) = (if negative then ['-'] else []) ++ cs := by
  refine ⟨_, ?_, float_finite negative m e⟩
  rcases Nat.eq_zero_or_pos m with rfl | hm
  · rw [if_pos rfl]
    exact .point .zero (Shortest.digits_replicate 1) (by decide)
  · obtain ⟨c, cs, hdigits, hc⟩ := toDigits_eq_cons (Shortest.digits_pos hm e)
    obtain ⟨cs', hdrop, hsubset⟩ := Shortest.dropZeros_cons hc cs
    have hds : Digits (c :: cs') := by
      intro x hx
      refine digits_toDigits (Shortest.digits m e).1 x ?_
      rw [hdigits]
      exact List.mem_cons.2 ((List.mem_cons.1 hx).imp id (hsubset x))
    rw [if_neg (Nat.ne_of_gt hm), hdigits, hdrop]
    exact Shortest.floatText_layout hc hds _

/-- A floating-point number is read back as one, the same whatever follows it. -/
theorem exists_scalar_float (x : Binary64) :
    ∃ y, ∀ rest, Delimited rest →
      scalar ((Writer.float x).map .char ++ rest) = .ok (.float y, rest) := by
  cases x with
  | nan => exact ⟨.nan, fun rest _ => scalar_nan rest⟩
  | infinite negative =>
    cases negative with
    | false => exact ⟨.infinite false, fun rest _ => scalar_infinity rest⟩
    | true => exact ⟨.infinite true, fun rest _ => scalar_minusInfinity rest⟩
  | finite negative m e =>
    obtain ⟨cs, hcs, htext⟩ := exists_floatText negative m e
    rw [htext]
    exact scalar_of_floatText hcs negative

def rereadFloat (x : Binary64) : Binary64 :=
  match scalar ((Writer.float x).map .char) with
  | .ok (.float y, _) => y
  | _ => x

theorem scalar_float (x : Binary64) {rest : Text} (hrest : Delimited rest) :
    scalar ((Writer.float x).map .char ++ rest) = .ok (.float (rereadFloat x), rest) := by
  obtain ⟨y, hy⟩ := exists_scalar_float x
  have hself := hy [] (by simp [Delimited])
  rw [List.append_nil] at hself
  rw [hy rest hrest, rereadFloat, hself]

end Json

end CredentialHelper
