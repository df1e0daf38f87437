import CredentialHelper.Credential.Token

/-!
# Tokens and instants

Whether a token can be used is decided by the instants of its expiry and of the moment that is asked
about, whatever clocks they were read off (`outlasts_eq`).  There is no decision where one of them,
or the instant ten seconds later, lies outside the years 1 to 9999.
-/

namespace CredentialHelper

/-! ## Instants on a scale without bounds -/

def Moment.micros (m : Moment) : Int := m.wall.val - m.offset.getD 0

def InYears (micros : Int) : Prop := 0 ≤ micros ∧ micros < microsInRange

instance (micros : Int) : Decidable (InYears micros) :=
  inferInstanceAs (Decidable (0 ≤ micros ∧ micros < microsInRange))

theorem exists_wallTime? {micros : Int} (h : InYears micros) :
    ∃ t, wallTime? micros = some t ∧ (t.val : Int) = micros :=
  ⟨_, dif_pos h, Int.toNat_of_nonneg h.1⟩

theorem wallTime?_of_not_inYears {micros : Int} (h : ¬InYears micros) : wallTime? micros = none :=
  dif_neg h

theorem Instant.micros_toMoment (t : Instant) : t.toMoment.micros = t.val := Int.sub_zero _

theorem Instant.inYears (t : Instant) : InYears t.val :=
  ⟨by omega, by have := t.isLt; omega⟩

theorem wallTime?_val (t : Instant) : wallTime? t.val = some t := by
  obtain ⟨u, hu, hval⟩ := exists_wallTime? t.inYears
  rw [hu, Fin.ext (Int.ofNat.inj hval)]

theorem val_of_wallTime? {micros : Int} {t : Instant} (h : wallTime? micros = some t) :
    (t.val : Int) = micros := by
  by_cases hyears : InYears micros
  · obtain ⟨u, hu, hval⟩ := exists_wallTime? hyears
    rw [← Option.some.inj (hu.symm.trans h), hval]
  · cases (wallTime?_of_not_inYears hyears).symm.trans h

theorem wallTime?_eq_none_iff {micros : Int} : wallTime? micros = none ↔ ¬InYears micros := by
  refine ⟨fun h hyears => ?_, wallTime?_of_not_inYears⟩
  obtain ⟨t, ht, -⟩ := exists_wallTime? hyears
  cases h.symm.trans ht

theorem Instant.val_of_addSeconds? {t u : Instant} {seconds : Int}
    (h : t.addSeconds? seconds = some u) : (u.val : Int) = t.val + seconds * 1000000 :=
  val_of_wallTime? h

theorem Moment.utc?_eq (m : Moment) : m.utc? = wallTime? m.micros := by
  obtain ⟨wall, offset⟩ := m
  cases offset with
  | some offset => rfl
  | none =>
    show some wall = wallTime? (wall.val - 0)
    rw [Int.sub_zero, wallTime?_val]

theorem Instant.utc?_toMoment (t : Instant) : t.toMoment.utc? = some t := by
  rw [Moment.utc?_eq, micros_toMoment, wallTime?_val]

namespace Token

/-! ## The comparison -/

/-- An expiry can be compared with the instant ten seconds from now. -/
structure Comparable (expiry now : Moment) : Prop where
  hexpiry : InYears expiry.micros
  hnow : InYears now.micros
  hlater : InYears (now.micros + 10 * 1000000)

theorem comparable_iff {expiry now : Moment} :
    Comparable expiry now ↔
      InYears expiry.micros ∧ InYears now.micros ∧ InYears (now.micros + 10 * 1000000) :=
  ⟨fun h => ⟨h.hexpiry, h.hnow, h.hlater⟩, fun h => ⟨h.1, h.2.1, h.2.2⟩⟩

instance (expiry now : Moment) : Decidable (Comparable expiry now) :=
  decidable_of_iff' _ comparable_iff

/-- An expiry is compared by instants, if there are such. -/
theorem outlasts_eq (expiry now : Moment) :
    outlasts expiry now =
      if Comparable expiry now then .ok (decide (now.micros + 10 * 1000000 < expiry.micros))
      else .error .date := by
  have hskew : ((Default.expirySkew : Nat) : Int) = 10 := rfl
  rw [outlasts, now.utc?_eq]
  by_cases hnow : InYears now.micros
  · obtain ⟨t, ht, hval⟩ := exists_wallTime? hnow
    rw [ht]
    dsimp only
    rw [outlastsBy, expiry.utc?_eq, Instant.addSeconds?, hskew, hval]
    by_cases hexpiry : InYears expiry.micros
    · obtain ⟨e, he, heval⟩ := exists_wallTime? hexpiry
      by_cases hlater : InYears (now.micros + 10 * 1000000)
      · obtain ⟨u, hu, huval⟩ := exists_wallTime? hlater
        have hlt : (u < e) = (now.micros + 10 * 1000000 < expiry.micros) := by
          rw [Fin.lt_def, ← huval, ← heval, Int.ofNat_lt]
        rw [if_pos ⟨hexpiry, hnow, hlater⟩, he, hu]
        simp only [hlt]
      · rw [if_neg fun h => hlater h.hlater, he, wallTime?_of_not_inYears hlater]
    · rw [if_neg fun h => hexpiry h.hexpiry, wallTime?_of_not_inYears hexpiry]
  · rw [if_neg fun h => hnow h.hnow, wallTime?_of_not_inYears hnow]

/-- The comparison succeeds in years 1 to 9999 alone. -/
theorem outlasts_eq_true_iff {expiry now : Moment} :
    outlasts expiry now = .ok true ↔
      0 ≤ now.micros ∧ expiry.micros < microsInRange ∧
        now.micros + 10 * 1000000 < expiry.micros := by
  rw [outlasts_eq]
  by_cases h : Comparable expiry now
  · rw [if_pos h, Except.ok.injEq, decide_eq_true_iff]
    exact ⟨fun hlt => ⟨h.hnow.1, h.hexpiry.2, hlt⟩, fun hall => hall.2.2⟩
  · rw [if_neg h]
    refine iff_of_false (fun heq => by cases heq) fun hall => h ?_
    obtain ⟨hnow, hexpiry, hlt⟩ := hall
    exact ⟨⟨by omega, hexpiry⟩, ⟨hnow, by omega⟩, ⟨by omega, by omega⟩⟩

theorem outlasts_eq_error_iff_not_comparable {expiry now : Moment} {e : RangeError} :
    outlasts expiry now = .error e ↔ e = .date ∧ ¬Comparable expiry now := by
  rw [outlasts_eq]
  by_cases h : Comparable expiry now
  · simp [h]
  · simp [h, eq_comm]

/-! ## The two rules -/

section

variable {t : Token} {now now' : Moment} {e : RangeError}

theorem isValid_of_expiry {expiry : Moment} (hvalue : t.value ≠ []) (h : t.expiry = some expiry) :
    t.isValid now = outlasts expiry now := by
  rw [isValid, if_neg fun hnil => hvalue (List.isEmpty_iff.1 hnil), h]

theorem isValid_of_no_expiry (h : t.expiry = none) : t.isValid now = .ok false := by
  rw [isValid, h]
  split <;> rfl

theorem isValid_of_empty (h : t.value = []) : t.isValid now = .ok false := by
  rw [isValid, h]
  rfl

theorem isValid_eq_error_iff :
    t.isValid now = .error e ↔
      e = .date ∧ t.value ≠ [] ∧ ∃ expiry, t.expiry = some expiry ∧ ¬Comparable expiry now := by
  by_cases hvalue : t.value = []
  · simp [isValid_of_empty hvalue, hvalue]
  · cases hexpiry : t.expiry with
    | none => simp [isValid_of_no_expiry hexpiry]
    | some expiry =>
      rw [isValid_of_expiry hvalue hexpiry, outlasts_eq_error_iff_not_comparable]
      simp [hvalue]

theorem isValid_eq_true_iff :
    t.isValid now = .ok true ↔
      t.value ≠ [] ∧ ∃ expiry, t.expiry = some expiry ∧ 0 ≤ now.micros ∧
        expiry.micros < microsInRange ∧ now.micros + 10 * 1000000 < expiry.micros := by
  by_cases hvalue : t.value = []
  · simp [isValid_of_empty hvalue, hvalue]
  · cases hexpiry : t.expiry with
    | none => simp [isValid_of_no_expiry hexpiry]
    | some expiry =>
      rw [isValid_of_expiry hvalue hexpiry, outlasts_eq_true_iff]
      simp [hvalue]

/-- The rules differ in a token without a known expiry alone. -/
theorem isLive_of_expiry {expiry : Moment} (h : t.expiry = some expiry) :
    t.isLive now = t.isValid now := by
  rw [isLive, h, Option.isNone_some, Bool.and_false]
  rfl

theorem isLive_of_no_expiry (h : t.expiry = none) : t.isLive now = .ok (decide (t.value ≠ [])) := by
  rw [isLive, isValid_of_no_expiry h, h]
  cases t.value <;> rfl

theorem isLive_eq_error_iff_isValid : t.isLive now = .error e ↔ t.isValid now = .error e := by
  cases hexpiry : t.expiry with
  | none => simp [isLive_of_no_expiry hexpiry, isValid_of_no_expiry hexpiry]
  | some expiry => rw [isLive_of_expiry hexpiry]

theorem isLive_eq_true_iff :
    t.isLive now = .ok true ↔ t.isValid now = .ok true ∨ t.value ≠ [] ∧ t.expiry = none := by
  cases hexpiry : t.expiry with
  | none => simp [isLive_of_no_expiry hexpiry, isValid_of_no_expiry hexpiry]
  | some expiry => simp [isLive_of_expiry hexpiry]

theorem outlasts_congr {expiry expiry' : Moment} (hexpiry : expiry.micros = expiry'.micros)
    (hnow : now.micros = now'.micros) : outlasts expiry now = outlasts expiry' now' := by
  simp only [outlasts_eq, comparable_iff, hexpiry, hnow]

theorem isValid_congr {expiry expiry' : Option Moment}
    (hexpiry : expiry.map Moment.micros = expiry'.map Moment.micros)
    (hnow : now.micros = now'.micros) :
    isValid { t with expiry } now = isValid { t with expiry := expiry' } now' := by
  rw [isValid, isValid]
  cases expiry with
  | none =>
    cases expiry' with
    | none => rfl
    | some m' => cases hexpiry
  | some m =>
    cases expiry' with
    | none => cases hexpiry
    | some m' =>
      dsimp only
      rw [outlasts_congr (Option.some.inj hexpiry) hnow]

theorem isLive_congr {expiry expiry' : Option Moment}
    (hexpiry : expiry.map Moment.micros = expiry'.map Moment.micros)
    (hnow : now.micros = now'.micros) :
    isLive { t with expiry } now = isLive { t with expiry := expiry' } now' := by
  have hnone : expiry.isNone = expiry'.isNone := by
    rw [← Option.isNone_map (f := Moment.micros), hexpiry, Option.isNone_map]
  rw [isLive, isLive, isValid_congr hexpiry hnow]
  dsimp only
  rw [hnone]

theorem isValid_earlier (hyears : 0 ≤ now'.micros) (hle : now'.micros ≤ now.micros)
    (h : t.isValid now = .ok true) : t.isValid now' = .ok true := by
  obtain ⟨hvalue, expiry, hexpiry, -, hlt, houtlasts⟩ := isValid_eq_true_iff.1 h
  exact isValid_eq_true_iff.2 ⟨hvalue, expiry, hexpiry, hyears, hlt, by omega⟩

theorem isLive_earlier (hyears : 0 ≤ now'.micros) (hle : now'.micros ≤ now.micros)
    (h : t.isLive now = .ok true) : t.isLive now' = .ok true :=
  isLive_eq_true_iff.2 ((isLive_eq_true_iff.1 h).imp_left (isValid_earlier hyears hle))

end

/-- Both rules are decided by instants, wherever these lie in the years 1 to 9999. -/
theorem decided_by_instants (t : Token) :
    (∀ now e, (t.isValid now = .error e ↔ e = .date ∧ t.value ≠ [] ∧
        ∃ expiry, t.expiry = some expiry ∧ ¬Comparable expiry now) ∧
      (t.isLive now = .error e ↔ t.isValid now = .error e)) ∧
    (∀ now, (t.isValid now = .ok true ↔ t.value ≠ [] ∧ ∃ expiry, t.expiry = some expiry ∧
        0 ≤ now.micros ∧ expiry.micros < microsInRange ∧
          now.micros + 10 * 1000000 < expiry.micros) ∧
      (t.isLive now = .ok true ↔
        t.isValid now = .ok true ∨ t.value ≠ [] ∧ t.expiry = none)) ∧
    (∀ (expiry expiry' : Option Moment) (now now' : Moment),
      expiry.map Moment.micros = expiry'.map Moment.micros → now.micros = now'.micros →
      isValid { t with expiry } now = isValid { t with expiry := expiry' } now' ∧
        isLive { t with expiry } now = isLive { t with expiry := expiry' } now') ∧
    (∀ now now' : Moment, 0 ≤ now'.micros → now'.micros ≤ now.micros →
      (t.isValid now = .ok true → t.isValid now' = .ok true) ∧
        (t.isLive now = .ok true → t.isLive now' = .ok true)) :=
  ⟨fun _ _ => ⟨isValid_eq_error_iff, isLive_eq_error_iff_isValid⟩,
    fun _ => ⟨isValid_eq_true_iff, isLive_eq_true_iff⟩,
    fun _ _ _ _ hexpiry hnow => ⟨isValid_congr hexpiry hnow, isLive_congr hexpiry hnow⟩,
    fun _ _ hyears hle => ⟨isValid_earlier hyears hle, isLive_earlier hyears hle⟩⟩

def firstMidnight : Moment := ⟨⟨0, by decide⟩, some 3600000000⟩

/-- Whether a token expires after noon of the first of May 2024 cannot be said if its expiry lies in
front of year 1. -/
theorem isValid_firstMidnight :
    isValid ⟨"t", Default.bearer, some firstMidnight⟩ ⟨⟨63850161600000000, by decide⟩, some 0⟩ =
      .error .date := by
  refine isValid_eq_error_iff.2 ⟨rfl, by decide, firstMidnight, rfl, fun h => ?_⟩
  exact absurd h.hexpiry (by decide)

end Token

end CredentialHelper
