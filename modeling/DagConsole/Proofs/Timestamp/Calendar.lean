import DagConsole.Timestamp.Basic
import Mathlib.Tactic.IntervalCases

/-! The calendar: every day has a date, and the date leads back to the day. -/
namespace DagConsole.CalendarDate

/-! ### Cycles of 400 years

Years begin in March here, so a leap day is the last day of its year. -/

/-- The year of a cycle that a day of the cycle falls into. -/
def yearInCycle (day : Int) : Int := (day - day / 1460 + day / 36524 - day / 146096) / 365

/-- The day of the year. -/
def dayInYear (day : Int) : Int := day - (365 * yearInCycle day + yearInCycle day / 4 - yearInCycle day / 100)

/-- The month of the year. -/
def monthInYear (day : Int) : Int := (5 * dayInYear day + 2) / 153

section Cycle

variable {day : Int} (first : 0 ≤ day) (last : day < 146097)

include first last

theorem yearInCycle_bounds : 0 ≤ yearInCycle day ∧ yearInCycle day ≤ 399 := by
  unfold yearInCycle
  omega

/-- Centuries of years and of days agree, but for the leap day at the very end. -/
theorem century_eq : yearInCycle day / 100 = day / 36524 - day / 146096 := by
  unfold yearInCycle
  have centuries : day / 36524 = 0 ∨ day / 36524 = 1 ∨ day / 36524 = 2 ∨ day / 36524 = 3 ∨ day / 36524 = 4 := by omega
  rcases centuries with century | century | century | century | century <;> omega

/-- Blocks of four years are a little longer than those that the year is counted with. -/
theorem block_bounds : yearInCycle day / 4 ≤ day / 1460 ∧ day / 1460 ≤ yearInCycle day / 4 + 1 := by
  have century := century_eq first last
  have years := yearInCycle_bounds first last
  have split : yearInCycle day = (day - day / 1460 + yearInCycle day / 100) / 365 := by
    rw [century, yearInCycle]
    congr 1
    omega
  omega

theorem dayInYear_bounds : 0 ≤ dayInYear day ∧ dayInYear day ≤ 365 := by
  have century := century_eq first last
  have block := block_bounds first last
  unfold dayInYear
  unfold yearInCycle at *
  omega

/-- Only leap years have a day more. -/
theorem leap_of_dayInYear (cycle : Int) (leap : dayInYear day = 365) :
    isLeapYear (yearInCycle day + cycle * 400 + 1) := by
  have century := century_eq first last
  have block := block_bounds first last
  have years := yearInCycle_bounds first last
  have fourth : yearInCycle day % 4 = 3 := by
    unfold dayInYear at leap
    unfold yearInCycle at *
    omega
  have centennial : (yearInCycle day + 1) % 100 = 0 → yearInCycle day = 399 := by
    unfold dayInYear at leap
    unfold yearInCycle at *
    omega
  simp only [isLeapYear, Bool.and_eq_true, Bool.or_eq_true, beq_iff_eq, bne_iff_ne, ne_eq]
  omega

end Cycle

/-! ### Months -/

section Year

variable {day : Int} (first : 0 ≤ dayInYear day) (last : dayInYear day ≤ 365)

include first last

theorem monthInYear_bounds : 0 ≤ monthInYear day ∧ monthInYear day ≤ 11 := by
  unfold monthInYear
  omega

/-- The month that a month of the year is when it is counted from January. -/
def civilMonth (month : Int) : Int := if month < 10 then month + 3 else month - 9

omit first last in
theorem civilMonth_bounds {month : Int} (low : 0 ≤ month) (high : month ≤ 11) :
    1 ≤ civilMonth month ∧ civilMonth month ≤ 12 := by
  unfold civilMonth
  split <;> omega

/-- The day of a month, counted from zero. -/
def dayInMonth (day : Int) : Int := dayInYear day - (153 * monthInYear day + 2) / 5

omit first last in
theorem dayInMonth_nonneg (day : Int) : 0 ≤ dayInMonth day := by
  unfold dayInMonth monthInYear
  omega

/-- No month is left before its last day. -/
theorem dayInMonth_lt (year : Int) (leap : dayInYear day = 365 → isLeapYear year) :
    dayInMonth day < monthLength year (civilMonth (monthInYear day)).toNat := by
  obtain ⟨low, high⟩ := monthInYear_bounds first last
  have month : monthInYear day = (5 * dayInYear day + 2) / 153 := rfl
  unfold dayInMonth
  generalize monthInYear day = m at *
  generalize dayInYear day = d at *
  by_cases february : m = 11
  · subst february
    cases leapYear : isLeapYear year with
    | true => simp [civilMonth, monthLength, leapYear]; omega
    | false =>
      have short : d ≠ 365 := fun last => by simp [leap last] at leapYear
      simp [civilMonth, monthLength, leapYear]; omega
  · interval_cases m <;> simp [civilMonth, monthLength] <;> omega

end Year

/-! ### Dates -/

section Dates

variable (days : Int)

/-- The day of the cycle that a day falls into. -/
def dayInCycle : Int := (days + 719468) % 146097

theorem dayInCycle_bounds : 0 ≤ dayInCycle days ∧ dayInCycle days < 146097 := by
  unfold dayInCycle
  omega

theorem ofDays_eq : ofDays days =
    ⟨yearInCycle (dayInCycle days) + (days + 719468) / 146097 * 400 +
        if civilMonth (monthInYear (dayInCycle days)) ≤ 2 then 1 else 0,
      (civilMonth (monthInYear (dayInCycle days))).toNat, (dayInMonth (dayInCycle days) + 1).toNat⟩ := rfl

/-- Every date that is made from a day exists. -/
theorem ofDays_exists : 1 ≤ (ofDays days).month ∧ (ofDays days).month ≤ 12 ∧ 1 ≤ (ofDays days).day ∧
    (ofDays days).day ≤ monthLength (ofDays days).year (ofDays days).month := by
  obtain ⟨first, last⟩ := dayInCycle_bounds days
  obtain ⟨low, high⟩ := dayInYear_bounds first last
  obtain ⟨march, february⟩ := monthInYear_bounds low high
  obtain ⟨earliest, latest⟩ := civilMonth_bounds march february
  have leap : dayInYear (dayInCycle days) = 365 → isLeapYear (ofDays days).year := by
    intro longest
    have month : monthInYear (dayInCycle days) = 11 := by rw [monthInYear, longest]; rfl
    rw [ofDays_eq, month]
    exact leap_of_dayInYear first last _ longest
  have start := dayInMonth_nonneg (dayInCycle days)
  have inside := dayInMonth_lt low high _ leap
  rw [ofDays_eq] at inside ⊢
  dsimp only at inside ⊢
  omega

/-- The day of a date, in terms of the year, month and day that it was made from. -/
theorem toDays_civil {year cycle month day : Int} (early : 0 ≤ year) (late : year ≤ 399) (march : 0 ≤ month)
    (february : month ≤ 11) (start : 0 ≤ day) :
    toDays ⟨year + cycle * 400 + if civilMonth month ≤ 2 then 1 else 0, (civilMonth month).toNat, (day + 1).toNat⟩ =
      cycle * 146097 + (365 * year + year / 4 - year / 100 + (153 * month + 2) / 5 + day) - 719468 := by
  have quotient : (year + cycle * 400) / 400 = cycle := by omega
  have remainder : (year + cycle * 400) % 400 = year := by omega
  by_cases before : month < 10
  · have civil : civilMonth month = month + 3 := if_pos before
    have later : ¬ (month + 3).toNat ≤ 2 := by omega
    have months : ((month + 3).toNat : Int) - 3 = month := by omega
    simp only [toDays, civil, if_neg later, if_neg (by omega : ¬ month + 3 ≤ 2), Int.add_zero, quotient, remainder,
      months]
    omega
  · have civil : civilMonth month = month - 9 := if_neg before
    have earlier : (month - 9).toNat ≤ 2 := by omega
    have months : ((month - 9).toNat : Int) + 9 = month := by omega
    simp only [toDays, civil, if_pos earlier, if_pos (by omega : month - 9 ≤ 2), Int.add_sub_cancel, quotient, remainder,
      months]
    omega

/-- The date of a day leads back to the day. -/
theorem toDays_ofDays : (ofDays days).toDays = days := by
  obtain ⟨first, last⟩ := dayInCycle_bounds days
  obtain ⟨low, high⟩ := dayInYear_bounds first last
  obtain ⟨march, february⟩ := monthInYear_bounds low high
  obtain ⟨early, late⟩ := yearInCycle_bounds first last
  rw [ofDays_eq, toDays_civil early late march february (dayInMonth_nonneg _), dayInMonth, dayInYear, dayInCycle]
  omega

/-- The years of the days that timestamps can be of have four digits. -/
theorem year_bounds {days : Int} (low : -4371587 ≤ days) (high : days ≤ 2932895) :
    -9999 ≤ (ofDays days).year ∧ (ofDays days).year ≤ 9999 := by
  obtain ⟨first, last⟩ := dayInCycle_bounds days
  obtain ⟨early, late⟩ := yearInCycle_bounds first last
  obtain ⟨least, most⟩ := dayInYear_bounds first last
  have whole : days + 719468 = 146097 * ((days + 719468) / 146097) + dayInCycle days :=
    (Int.mul_ediv_add_emod _ _).symm
  have year : dayInYear (dayInCycle days) = dayInCycle days - (365 * yearInCycle (dayInCycle days) +
    yearInCycle (dayInCycle days) / 4 - yearInCycle (dayInCycle days) / 100) := rfl
  rw [ofDays_eq]
  dsimp only
  generalize (days + 719468) / 146097 = cycle at *
  constructor
  · by_cases start : cycle = -25 ∧ yearInCycle (dayInCycle days) = 0
    · have january : civilMonth (monthInYear (dayInCycle days)) ≤ 2 := by
        simp only [civilMonth, monthInYear]
        omega
      rw [if_pos january]
      omega
    · split <;> omega
  · by_cases ending : cycle = 24 ∧ yearInCycle (dayInCycle days) = 399
    · have december : ¬ civilMonth (monthInYear (dayInCycle days)) ≤ 2 := by
        simp only [civilMonth, monthInYear]
        omega
      rw [if_neg december]
      omega
    · split <;> omega

end Dates

end DagConsole.CalendarDate
