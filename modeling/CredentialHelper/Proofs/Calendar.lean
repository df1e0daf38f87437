import CredentialHelper.Time.Calendar

/-!
# Days and dates

`Date.ofDays` finds the date of every day, and `Date.toDays` counts the days of that date.  A count
of days splits into cycles of 400, 100, 4 and 1 years; the last of four such parts can be one day
longer than the others, which is the day of a leap year.
-/

namespace CredentialHelper

namespace Calendar

theorem daysBeforeMonth_one (year : Nat) : daysBeforeMonth year 1 = 0 := by
  simp [daysBeforeMonth, daysInMonth]

def daysInYear (year : Nat) : Nat := if isLeap year then 366 else 365

theorem daysBeforeMonth_thirteen (year : Nat) : daysBeforeMonth year 13 = daysInYear year := by
  cases hleap : isLeap year <;> simp [daysBeforeMonth, daysInMonth, daysInYear, hleap]

theorem isLeap_iff (year : Nat) :
    isLeap year = true ↔ year % 4 = 0 ∧ (year % 100 ≠ 0 ∨ year % 400 = 0) := by
  simp [isLeap]

/-- The year after `c` cycles of 400 years, `k` centuries, `q` cycles of 4 years and `y` years. -/
def yearAt (c k q y : Nat) : Nat := 400 * c + 100 * k + 4 * q + y + 1

theorem daysBeforeYear_yearAt {k q y : Nat} (c : Nat) (hk : k ≤ 3) (hq : q ≤ 24) (hy : y ≤ 3) :
    daysBeforeYear (yearAt c k q y) = 146097 * c + 36524 * k + 1461 * q + 365 * y := by
  have h4 : (yearAt c k q y - 1) / 4 = 100 * c + 25 * k + q := by
    unfold yearAt
    omega
  have h100 : (yearAt c k q y - 1) / 100 = 4 * c + k := by
    unfold yearAt
    omega
  have h400 : (yearAt c k q y - 1) / 400 = c := by
    unfold yearAt
    omega
  rw [daysBeforeYear, h4, h100, h400]
  unfold yearAt
  omega

/-- The last of four years is a leap year unless it ends one of the first three centuries. -/
theorem isLeap_yearAt {k q : Nat} (c : Nat) (hq : q ≤ 24) (h : k = 3 ∨ q < 24) :
    isLeap (yearAt c k q 3) = true := by
  rw [isLeap_iff]
  unfold yearAt
  omega

end Calendar

namespace Date

open Calendar

/-- The month that is found for a day holds that day. -/
theorem monthOf_spec {year n month : Nat} (h : n < daysBeforeMonth year (month + 1)) :
    ∃ m d, monthOf year n month = (m, d + 1) ∧ 1 ≤ m ∧ m ≤ month ∧ d < daysInMonth year m ∧
      daysBeforeMonth year m + d = n := by
  induction month with
  | zero =>
    rw [daysBeforeMonth_one] at h
    exact absurd h (Nat.not_lt_zero n)
  | succ month ih =>
    rw [monthOf]
    by_cases hle : daysBeforeMonth year (month + 1) ≤ n
    · rw [if_pos hle]
      rw [daysBeforeMonth] at h
      exact ⟨month + 1, _, rfl, by omega, by omega, by omega, by omega⟩
    · rw [if_neg hle]
      obtain ⟨m, d, heq, hm, hmonth, hd, hn⟩ := ih (Nat.not_le.1 hle)
      exact ⟨m, d, heq, hm, by omega, hd, hn⟩

theorem ofDays_eq (n : Nat) :
    ∃ year day, ofDays n = ⟨year, (monthOf year day 12).1, (monthOf year day 12).2⟩ ∧
      1 ≤ year ∧ (n < 3652059 → year ≤ 9999) ∧ day < daysInYear year ∧
        daysBeforeYear year + day = n := by
  let c := n / 146097
  let r := n % 146097
  let k := min (r / 36524) 3
  let s := r - 36524 * k
  let q := s / 1461
  let u := s % 1461
  let y := min (u / 365) 3
  have hk : k ≤ 3 := Nat.min_le_right _ 3
  have hy : y ≤ 3 := Nat.min_le_right _ 3
  have hr : r < 146097 := Nat.mod_lt _ (by decide)
  have hs : s ≤ 36524 ∧ (k < 3 → s < 36524) := by omega
  have hq : q ≤ 24 := by omega
  have hu : u ≤ 1460 ∧ (q = 24 → k < 3 → u < 1460) := by omega
  have hd : u - 365 * y ≤ 365 ∧ (y < 3 → u - 365 * y < 365) := by omega
  have hn : 146097 * c + 36524 * k + 1461 * q + 365 * y + (u - 365 * y) = n := by omega
  refine ⟨yearAt c k q y, u - 365 * y, rfl, by unfold yearAt; omega, ?_, ?_, ?_⟩
  · intro hlt
    have hc : c < 24 ∨ c = 24 ∧ r < 145731 := by omega
    have hq24 : c = 24 → k = 3 → q = 24 → y < 3 := by omega
    unfold yearAt
    omega
  · unfold daysInYear
    split
    · omega
    · next hleap =>
      refine Nat.lt_of_le_of_ne (by omega) fun heq => hleap ?_
      have hy3 : y = 3 := by omega
      rw [hy3]
      exact isLeap_yearAt c hq (by omega)
  · rw [daysBeforeYear_yearAt c hk hq hy, hn]

theorem toDays_ofDays (n : Nat) : (ofDays n).toDays = n := by
  obtain ⟨year, day, hdate, -, -, hday, hn⟩ := ofDays_eq n
  rw [← daysBeforeMonth_thirteen] at hday
  obtain ⟨m, d, hmonth, -, -, -, hd⟩ := monthOf_spec hday
  rw [hdate, hmonth, toDays]
  dsimp only
  omega

theorem isValid_ofDays {n : Nat} (h : n < 3652059) : (ofDays n).isValid = true := by
  obtain ⟨year, day, hdate, hyear, hlast, hday, -⟩ := ofDays_eq n
  rw [← daysBeforeMonth_thirteen] at hday
  obtain ⟨m, d, hmonth, hm, hm12, hd, -⟩ := monthOf_spec hday
  have hyear' := hlast h
  rw [hdate, hmonth]
  simp only [isValid, Bool.and_eq_true, decide_eq_true_eq]
  omega

end Date

end CredentialHelper
