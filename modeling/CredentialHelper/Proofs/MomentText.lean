import CredentialHelper.Proofs.Calendar
import CredentialHelper.Time.Reader
import Mathlib.Algebra.Group.Nat.Defs

/-!
# The text of a moment

A moment whose offset is a whole number of minutes is read back from its text.  The text is a
sequence of decimal numbers of fixed widths, so both directions go through `digitBytes`: the writer
pads to that width and the reader takes that many digits.
-/

namespace CredentialHelper

/-! ## Numbers of a fixed width -/

def fixedDigits : Nat → Nat → List Char
  | 0, _ => []
  | width + 1, n => fixedDigits width (n / 10) ++ [Nat.digitChar (n % 10)]

theorem fixedDigits_zero (width : Nat) : fixedDigits width 0 = List.replicate width '0' := by
  induction width with
  | zero => rfl
  | succ width ih =>
    rw [fixedDigits, Nat.zero_div, ih, List.replicate_succ']
    rfl

theorem replicate_toDigits {width n : Nat} (hwidth : 0 < width) (h : n < 10 ^ width) :
    List.replicate (width - (Nat.toDigits 10 n).length) '0' ++ Nat.toDigits 10 n =
      fixedDigits width n := by
  induction width generalizing n with
  | zero => exact absurd hwidth (Nat.lt_irrefl 0)
  | succ width ih =>
    rw [Nat.toDigits_eq_if (by decide), fixedDigits]
    by_cases hn : n < 10
    · rw [if_pos hn, Nat.div_eq_of_lt hn, Nat.mod_eq_of_lt hn, fixedDigits_zero]
      rfl
    · have hpos : 0 < width := by
        refine Nat.pos_of_ne_zero fun hzero => hn ?_
        rwa [hzero] at h
      have hdiv : n / 10 < 10 ^ width := by
        rw [Nat.pow_succ] at h
        omega
      rw [if_neg hn, List.length_append, List.length_singleton, Nat.add_sub_add_right,
        ← List.append_assoc, ih hpos hdiv]

theorem toList_padded {width n : Nat} (hwidth : 0 < width) (h : n < 10 ^ width) :
    (Moment.padded width n).toList = fixedDigits width n := by
  have hrepr : (toString n).toList = Nat.toDigits 10 n := by
    show (Nat.repr n).toList = _
    rw [Nat.repr_eq_ofList_toDigits, String.toList_ofList]
  rw [Moment.padded, String.toList_append, String.toList_ofList, hrepr,
    ← replicate_toDigits hwidth h,
    ← hrepr, String.length_toList]

namespace MomentReader

def digitByte (k : Nat) : UInt8 := UInt8.ofNat (0x30 + k)

theorem encode_append (s t : String) : Utf8.encode (s ++ t) = Utf8.encode s ++ Utf8.encode t := by
  rw [Utf8.encode, String.toList_append, Utf8.encodeChars, List.flatMap_append]
  rfl

theorem utf8EncodeChar_digitChar {k : Nat} (h : k < 10) :
    String.utf8EncodeChar (Nat.digitChar k) = [digitByte k] := by
  revert k
  decide

theorem digit?_digitByte {k : Nat} (h : k < 10) : digit? (digitByte k) = some k := by
  revert k
  decide

def digitBytes : Nat → Nat → Bytes
  | 0, _ => []
  | width + 1, n => digitBytes width (n / 10) ++ [digitByte (n % 10)]

theorem encodeChars_fixedDigits (width n : Nat) :
    Utf8.encodeChars (fixedDigits width n) = digitBytes width n := by
  induction width generalizing n with
  | zero => rfl
  | succ width ih =>
    have hdigit : n % 10 < 10 := Nat.mod_lt n (by decide)
    rw [fixedDigits, digitBytes, ← ih, Utf8.encodeChars, List.flatMap_append,
      List.flatMap_singleton, utf8EncodeChar_digitChar hdigit]
    rfl

theorem encode_padded {width n : Nat} (hwidth : 0 < width) (h : n < 10 ^ width) :
    Utf8.encode (Moment.padded width n) = digitBytes width n := by
  rw [Utf8.encode, toList_padded hwidth h, encodeChars_fixedDigits]

theorem pair?_digitByte {n : Nat} (h : n < 100) :
    pair? (digitByte (n / 10 % 10)) (digitByte (n % 10)) = some n := by
  rw [pair?, digit?_digitByte (by omega), digit?_digitByte (by omega)]
  show some (n / 10 % 10 * 10 + n % 10) = some n
  rw [Option.some.injEq]
  omega

def dateBytes (d : Date) : Bytes :=
  digitBytes 2 (d.year / 100) ++ digitBytes 2 d.year ++ 0x2D :: digitBytes 2 d.month ++
    0x2D :: digitBytes 2 d.day

theorem lt_of_isValid {d : Date} (h : d.isValid = true) :
    d.year < 10000 ∧ d.month < 10 ^ 2 ∧ d.day < 10 ^ 2 := by
  simp only [Date.isValid, Bool.and_eq_true, decide_eq_true_eq] at h
  have : Calendar.daysInMonth d.year d.month ≤ 31 := by
    unfold Calendar.daysInMonth
    split
    · split <;> omega
    · split
      · omega
      · split <;> omega
  omega

theorem date_dateBytes {d : Date} (h : d.isValid = true) (rest : Bytes) :
    date (dateBytes d ++ rest) = .ok (d, rest) := by
  obtain ⟨hyears, hmonths, hdays⟩ := lt_of_isValid h
  simp only [Date.isValid, Bool.and_eq_true, decide_eq_true_eq] at h
  have hcentury := pair?_digitByte (show d.year / 100 < 100 by omega)
  have hending : pair? (digitByte (d.year / 10 % 10)) (digitByte (d.year % 10)) =
      some (d.year % 100) := by
    have := pair?_digitByte (show d.year % 100 < 100 by omega)
    rwa [show d.year % 100 / 10 % 10 = d.year / 10 % 10 by omega,
      show d.year % 100 % 10 = d.year % 10 by omega] at this
  show date (digitByte (d.year / 100 / 10 % 10) :: digitByte (d.year / 100 % 10) ::
    digitByte (d.year / 10 % 10) :: digitByte (d.year % 10) :: 0x2D ::
    digitByte (d.month / 10 % 10) :: digitByte (d.month % 10) :: 0x2D ::
    digitByte (d.day / 10 % 10) :: digitByte (d.day % 10) :: rest) = _
  have hyear'' : d.year / 100 * 100 + d.year % 100 = d.year := by omega
  rw [date, hcentury, hending, pair?_digitByte (show d.month < 100 by omega), pair?_digitByte hdays]
  simp only [hyear'']
  rw [if_neg (fun h => h rfl), if_neg (fun h => h rfl), if_neg (by omega), if_neg (by omega)]

/-! ## Times of day -/

/-- The offsets that are written with hours and minutes. -/
def WholeMinutes (offset : Int) : Prop :=
  offset.natAbs < 86400000000 ∧ offset.natAbs % 60000000 = 0

def zoneBytes : Option Int → Bytes
  | none => []
  | some offset =>
    if offset = 0 then [0x5A]
    else (if offset < 0 then 0x2D else 0x2B) ::
      (digitBytes 2 (offset.natAbs / 60000000 / 60) ++
        0x3A :: digitBytes 2 (offset.natAbs / 60000000 % 60))

theorem offset?_zoneBytes {offset : Option Int} (h : ∀ o ∈ offset, WholeMinutes o) :
    offset? (zoneBytes offset) = some offset := by
  cases offset with
  | none => rfl
  | some o =>
    obtain ⟨hlt, hminutes⟩ := h o rfl
    by_cases hzero : o = 0
    · rw [zoneBytes, if_pos hzero, hzero]
      rfl
    · obtain ⟨minutes, hminutes'⟩ : ∃ minutes, o.natAbs / 60000000 = minutes := ⟨_, rfl⟩
      have hhours := pair?_digitByte (show minutes / 60 < 100 by omega)
      have hrest := pair?_digitByte (show minutes % 60 < 100 by omega)
      have hread (sign : Int) (hsign : sign * o.natAbs = o) :
          (do
            let hours ← pair? (digitByte (minutes / 60 / 10 % 10)) (digitByte (minutes / 60 % 10))
            let minutes ← pair? (digitByte (minutes % 60 / 10 % 10)) (digitByte (minutes % 60 % 10))
            if minutes < 60 ∧ hours < 24 then
              some (some (sign * (((hours : Int) * 60 + minutes) * 60000000)))
            else none) = some (some o) := by
        rw [hhours, hrest]
        show (if _ then _ else _) = _
        have hsum : (((minutes / 60 : Nat) : Int) * 60 + (minutes % 60 : Nat)) * 60000000 =
            o.natAbs := by omega
        rw [if_pos (by omega), hsum, hsign]
      rw [zoneBytes, if_neg hzero, hminutes']
      by_cases hneg : o < 0
      · rw [if_pos hneg]
        exact hread (-1) (by omega)
      · rw [if_neg hneg]
        exact hread 1 (by omega)

theorem zoneBytes_cases (offset : Option Int) :
    zoneBytes offset = [] ∨ ∃ z rest, zoneBytes offset = z :: rest ∧ digit? z = none ∧
      ¬(z = 0x2E ∨ z = 0x2C) := by
  cases offset with
  | none => exact .inl rfl
  | some o =>
    right
    by_cases hzero : o = 0
    · exact ⟨0x5A, [], by rw [zoneBytes, if_pos hzero], by decide, by decide⟩
    · rw [zoneBytes, if_neg hzero]
      by_cases hneg : o < 0
      · rw [if_pos hneg]
        exact ⟨_, _, rfl, by decide, by decide⟩
      · rw [if_neg hneg]
        exact ⟨_, _, rfl, by decide, by decide⟩

/-- The decimal digits of a number as the reader of fractions sees them. -/
def digitValues : Nat → Nat → List Nat
  | 0, _ => []
  | width + 1, n => digitValues width (n / 10) ++ [n % 10]

theorem filterMap_digitBytes (width n : Nat) :
    (digitBytes width n).filterMap digit? = digitValues width n := by
  induction width generalizing n with
  | zero => rfl
  | succ width ih =>
    have hdigit : n % 10 < 10 := Nat.mod_lt n (by decide)
    rw [digitBytes, digitValues, List.filterMap_append, ih, List.filterMap_cons_some
      (digit?_digitByte hdigit), List.filterMap_nil]

theorem isSome_of_mem_digitBytes {width n : Nat} {b : UInt8} (h : b ∈ digitBytes width n) :
    (digit? b).isSome = true := by
  induction width generalizing n with
  | zero => cases h
  | succ width ih =>
    rcases List.mem_append.1 h with h | h
    · exact ih h
    · rw [List.mem_singleton.1 h, digit?_digitByte (Nat.mod_lt n (by decide))]
      rfl

theorem takeWhile_digits (width n : Nat) (offset : Option Int) :
    (digitBytes width n ++ zoneBytes offset).takeWhile (fun b => (digit? b).isSome) =
      digitBytes width n := by
  rw [List.takeWhile_append_of_pos fun b hb => isSome_of_mem_digitBytes hb]
  rcases zoneBytes_cases offset with h | ⟨z, rest, h, hz, -⟩
  · rw [h, List.takeWhile_nil, List.append_nil]
  · rw [h, List.takeWhile_cons_of_neg (by rw [hz]; exact Bool.false_ne_true), List.append_nil]

theorem fractionMicros_digitValues {n : Nat} (h : n < 1000000) :
    fractionMicros (digitValues 6 n) = n := by
  simp only [digitValues, List.nil_append, List.cons_append, fractionMicros, List.replicate,
    List.take_succ_cons, List.take_zero, List.foldl_cons, List.foldl_nil]
  omega

def timeBytes (micros : Nat) : Bytes :=
  digitBytes 2 (micros / 1000000 / 3600) ++ 0x3A :: digitBytes 2 (micros / 1000000 / 60 % 60) ++
    0x3A :: digitBytes 2 (micros / 1000000 % 60) ++
      if micros % 1000000 = 0 then [] else 0x2E :: digitBytes 6 (micros % 1000000)

theorem time?_seconds {hour minute second : Nat} (hhour : hour < 24) (hminute : minute < 60)
    (hsecond : second < 60) (tail : Bytes) :
    time? (digitBytes 2 hour ++ 0x3A :: digitBytes 2 minute ++
        0x3A :: digitBytes 2 second ++ tail) =
      match tail with
      | p :: rest =>
        if p = 0x2E ∨ p = 0x2C then
          let ds := (rest.takeWhile fun b => (digit? b).isSome).filterMap digit?
          if ds.isEmpty then none
          else (offset? (rest.drop ds.length)).map fun offset =>
            ((hour * 3600 + minute * 60 + second) * 1000000 + fractionMicros ds, offset)
        else (offset? (p :: rest)).map fun offset =>
          ((hour * 3600 + minute * 60 + second) * 1000000, offset)
      | [] => some ((hour * 3600 + minute * 60 + second) * 1000000, none) := by
  show time? (digitByte (hour / 10 % 10) :: digitByte (hour % 10) :: 0x3A ::
    digitByte (minute / 10 % 10) :: digitByte (minute % 10) :: 0x3A ::
    digitByte (second / 10 % 10) :: digitByte (second % 10) :: tail) = _
  rw [time?, pair?_digitByte (by omega), pair?_digitByte (by omega)]
  simp only [Option.bind_eq_bind, Option.bind_some, pair?_digitByte (show second < 100 by omega)]
  rw [if_neg (by omega), if_neg (by omega)]
  cases tail with
  | nil => rfl
  | cons p rest =>
    dsimp only
    split
    · split
      · rfl
      · rw [Option.map_eq_bind]
        rfl
    · rw [Option.map_eq_bind]
      rfl

theorem time?_timeBytes {micros : Nat} (h : micros < 86400000000) {offset : Option Int}
    (hoffset : ∀ o ∈ offset, WholeMinutes o) :
    time? (timeBytes micros ++ zoneBytes offset) = some (micros, offset) := by
  have hzone := offset?_zoneBytes hoffset
  have hseconds : (micros / 1000000 / 3600 * 3600 + micros / 1000000 / 60 % 60 * 60 +
      micros / 1000000 % 60) * 1000000 = micros - micros % 1000000 := by omega
  rw [timeBytes, List.append_assoc, time?_seconds (by omega) (by omega) (by omega), hseconds]
  by_cases hwhole : micros % 1000000 = 0
  · rw [if_pos hwhole, List.nil_append, hwhole, Nat.sub_zero]
    rcases zoneBytes_cases offset with hempty | ⟨z, rest, hcons, -, hz⟩
    · rw [hempty] at hzone ⊢
      cases hzone
      rfl
    · rw [hcons] at hzone ⊢
      dsimp only
      rw [if_neg hz, hzone]
      rfl
  · have hmicros := fractionMicros_digitValues (show micros % 1000000 < 1000000 by omega)
    have hdrop : (digitBytes 6 (micros % 1000000) ++ zoneBytes offset).drop
        (digitValues 6 (micros % 1000000)).length = zoneBytes offset := rfl
    rw [if_neg hwhole, List.cons_append]
    dsimp only
    rw [if_pos (.inl rfl), takeWhile_digits, filterMap_digitBytes, hdrop, hzone, hmicros,
      if_neg (by simp [digitValues])]
    show some (_ : Nat × Option Int) = _
    rw [Nat.sub_add_cancel (Nat.mod_le _ _)]

/-! ## Whole moments -/

theorem encode_year {n : Nat} (h : n < 10000) :
    Utf8.encode (Moment.padded 4 n) = digitBytes 2 (n / 100) ++ digitBytes 2 n := by
  rw [encode_padded (by decide) h]
  simp only [digitBytes, List.nil_append, List.cons_append]
  rw [show n / 10 / 10 = n / 100 by omega]

theorem encode_minutesText {offset : Int} (h : WholeMinutes offset) (hzero : offset ≠ 0) :
    Utf8.encode (Moment.minutesText (offset < 0) (offset.natAbs + 500000)) =
      zoneBytes (some offset) := by
  obtain ⟨hlt, hminutes⟩ := h
  have hrounded : (offset.natAbs + 500000) / 60000000 = offset.natAbs / 60000000 := by omega
  have hsign : Utf8.encode (if decide (offset < 0) = true then "-" else "+") =
      [if offset < 0 then 0x2D else 0x2B] := by
    by_cases hneg : offset < 0 <;> simp only [hneg] <;> rfl
  rw [Moment.minutesText, zoneBytes, if_neg hzero]
  simp only [encode_append, hsign, hrounded]
  rw [encode_padded (by decide) (show offset.natAbs / 60000000 / 60 < 10 ^ 2 by omega),
    encode_padded (by decide) (show offset.natAbs / 60000000 % 60 < 10 ^ 2 by omega)]
  rfl

theorem isValid_wallDate (wall : Fin microsInRange) :
    (Date.ofDays (wall.val / 86400000000)).isValid = true := by
  have hwall := wall.isLt
  unfold microsInRange at hwall
  exact Date.isValid_ofDays (by omega)

theorem encode_wallText (wall : Fin microsInRange) :
    Utf8.encode (Moment.wallText wall) = dateBytes (Date.ofDays (wall.val / 86400000000)) ++
      0x54 :: timeBytes (wall.val % 86400000000) := by
  obtain ⟨hyear, hmonth, hday⟩ := lt_of_isValid (isValid_wallDate wall)
  have hmicros : wall.val % 86400000000 < 86400000000 := Nat.mod_lt _ (by decide)
  have hfraction : Utf8.encode (if wall.val % 86400000000 % 1000000 = 0 then ""
      else "." ++ Moment.padded 6 (wall.val % 86400000000 % 1000000)) =
        if wall.val % 86400000000 % 1000000 = 0 then []
        else 0x2E :: digitBytes 6 (wall.val % 86400000000 % 1000000) := by
    split
    · rfl
    · have hmicro : wall.val % 86400000000 % 1000000 < 10 ^ 6 := Nat.mod_lt _ (by decide)
      rw [encode_append, encode_padded (show 0 < 6 by decide) hmicro]
      rfl
  have hdash : Utf8.encode "-" = [0x2D] := rfl
  have hcolon : Utf8.encode ":" = [0x3A] := rfl
  have hseparator : Utf8.encode "T" = [0x54] := rfl
  have htwo {n : Nat} (h : n < 10 ^ 2) : Utf8.encode (Moment.padded 2 n) = digitBytes 2 n :=
    encode_padded (by decide) h
  rw [Moment.wallText]
  simp only [encode_append, hfraction, encode_year hyear, htwo hmonth, htwo hday, hdash, hcolon,
    hseparator]
  rw [htwo (by omega), htwo (by omega), htwo (by omega)]
  simp only [dateBytes, timeBytes, List.append_assoc, List.cons_append, List.nil_append]

theorem encode_stamp {m : Moment} (h : ∀ o ∈ m.offset, WholeMinutes o) :
    Utf8.encode m.stamp = dateBytes (Date.ofDays (m.wall.val / 86400000000)) ++
      0x54 :: (timeBytes (m.wall.val % 86400000000) ++ zoneBytes m.offset) := by
  obtain ⟨wall, offset⟩ := m
  rw [Moment.stamp, encode_append, encode_wallText, List.append_assoc, List.cons_append]
  cases offset with
  | none => rfl
  | some o =>
    dsimp only
    by_cases hzero : o = 0
    · rw [hzero, if_pos (by decide), zoneBytes, if_pos rfl]
      rfl
    · obtain ⟨-, hminutes⟩ := h o rfl
      rw [if_neg (by omega), encode_minutesText (h o rfl) hzero]

/-- A moment is read back from its text. -/
theorem ofString_stamp {m : Moment} (h : ∀ o ∈ m.offset, WholeMinutes o) :
    ofString m.stamp = .ok m := by
  have hwall := m.wall.isLt
  have hvalid := isValid_wallDate m.wall
  have hdateTime : dateTime? (Utf8.encode m.stamp) =
      some (Date.ofDays (m.wall.val / 86400000000), m.wall.val % 86400000000, m.offset) := by
    rw [encode_stamp h, dateTime?, date_dateBytes hvalid]
    dsimp only
    rw [if_pos (by decide), time?_timeBytes (Nat.mod_lt _ (by decide)) h]
    rfl
  have hsum : ((m.wall.val / 86400000000 : Nat) * 86400000000 +
      (m.wall.val % 86400000000 : Nat) : Int) = m.wall.val := by omega
  have hyear : (Date.ofDays (m.wall.val / 86400000000)).year ≠ 0 := by
    simp only [Date.isValid, Bool.and_eq_true, decide_eq_true_eq] at hvalid
    omega
  rw [ofString, hdateTime]
  dsimp only
  rw [ofDate, if_neg hyear, Moment.ofDate?, Date.toDays_ofDays, hsum, wallTime?, dif_pos (by omega)]
  rfl

end MomentReader

end CredentialHelper
