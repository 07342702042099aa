import Mathlib.Tactic.IntervalCases
import ClipRank.Timestamp

/-! Days and dates. Every day has a date in the calendar, and the date counts back to the
day. Years begin in March here, so that the day of a leap year is the last one, and an
era of 400 of them has the same number of days each time. -/

namespace ClipRank.Proofs.CalendarDates
open Timestamp

section Era

/-- The days of an era before one of its years. -/
def daysBefore (year : Nat) : Nat :=
  365 * year + year / 4 - year / 100 + year / 400

/-- The days of an era up to one of its days, without the leap days among them. -/
def leapless (day : Nat) : Nat :=
  day - day / 1460 + day / 36524 - day / 146096

private theorem leapless_mono {day later : Nat} (before : day ≤ later) : leapless day ≤ leapless later := by
  have cycle (day : Nat) : day / 146096 = day / 36524 / 4 := by rw [Nat.div_div_eq_div_mul]
  unfold leapless
  rw [cycle, cycle]
  omega

/-- The first and the last day of a year count as days of this year. -/
private theorem year_ends : ∀ year < 400, 365 * year ≤ leapless (daysBefore year) ∧
    leapless (daysBefore (year + 1) - 1) < 365 * (year + 1) := by
  decide +kernel

private theorem year_found {day : Nat} (within : day < 146097) :
    leapless day / 365 < 400 ∧ daysBefore (leapless day / 365) ≤ day ∧ day < daysBefore (leapless day / 365 + 1) := by
  have last : leapless 146096 < 365 * 400 := by decide
  have below := leapless_mono (show day ≤ 146096 by omega)
  obtain ⟨year, isYear⟩ : ∃ year, year = leapless day / 365 := ⟨_, rfl⟩
  rw [← isYear]
  have bound : year < 400 := by omega
  refine ⟨bound, ?_, ?_⟩
  · by_contra early
    cases year with
    | zero => exact early (Nat.zero_le _)
    | succ before =>
      have ends := (year_ends before (by omega)).2
      have mono := leapless_mono (show day ≤ daysBefore (before + 1) - 1 by omega)
      omega
  · by_contra late
    have mono := leapless_mono (Nat.not_lt.mp late)
    rcases Nat.lt_or_ge (year + 1) 400 with inside | beyond
    · have starts := (year_ends (year + 1) inside).1
      omega
    · obtain rfl : year = 399 := by omega
      have whole : daysBefore (399 + 1) = 146097 := by decide
      omega

end Era

section Year

/-- The year of a date, if years began in March. -/
def shiftedYear (year : Int) (month : Nat) : Int :=
  if month ≤ 2 then year - 1 else year

/-- The months by their places in a year that begins in March. -/
def monthAt (index : Nat) : Nat :=
  if index < 10 then index + 3 else index - 9

/-- The civil year of a month, for a year that begins in March. -/
def civilYear (year : Int) (month : Nat) : Int :=
  if month ≤ 2 then year + 1 else year

private theorem month_length {index : Nat} (year : Int) (within : index < 12) :
    (1 ≤ monthAt index ∧ monthAt index ≤ 12) ∧ daysBeforeMonth (monthAt index) = (153 * index + 2) / 5 ∧
      shiftedYear (civilYear year (monthAt index)) (monthAt index) = year ∧
      daysInMonth (civilYear year (monthAt index)) (monthAt index) =
        if index = 11 then (if isLeapYear (year + 1) then 29 else 28)
        else (153 * (index + 1) + 2) / 5 - (153 * index + 2) / 5 := by
  interval_cases index <;> simp [monthAt, civilYear, shiftedYear, daysBeforeMonth, daysInMonth]

end Year

section Date

/-- The days before a year from the first March on. -/
def daysBeforeYear (year : Int) : Int :=
  365 * year + year.fdiv 4 - year.fdiv 100 + year.fdiv 400

private theorem daysBeforeYear_eq (era : Int) {year : Nat} (within : year < 400) :
    daysBeforeYear (era * 400 + year) = era * 146097 + daysBefore year := by
  unfold daysBeforeYear daysBefore
  rw [Int.fdiv_eq_ediv_of_nonneg _ (by decide), Int.fdiv_eq_ediv_of_nonneg _ (by decide),
    Int.fdiv_eq_ediv_of_nonneg _ (by decide)]
  omega

private theorem dayOfDate_eq (year : Int) (month day : Nat) : dayOfDate year month day =
    daysBeforeYear (shiftedYear year month) + daysBeforeMonth month + (day - 1) - 719468 :=
  rfl

/-- A year has a day more just when it ends in the February of a leap year. -/
private theorem year_length (era : Int) {year : Nat} (within : year < 400) :
    daysBefore (year + 1) = daysBefore year + if isLeapYear (era * 400 + year + 1) then 366 else 365 := by
  unfold daysBefore isLeapYear
  simp only [Bool.and_eq_true, Bool.or_eq_true, decide_eq_true_eq]
  split_ifs <;> omega

private theorem dateOfDay_eq {day era : Int} {dayOfEra : Nat} (split : day + 719468 = era * 146097 + dayOfEra)
    (within : dayOfEra < 146097) :
    ∃ year dayOfYear index, year < 400 ∧ dayOfEra = daysBefore year + dayOfYear ∧ dayOfEra < daysBefore (year + 1) ∧
      index = (5 * dayOfYear + 2) / 153 ∧
      dateOfDay day = (civilYear (era * 400 + year) (monthAt index), monthAt index,
        dayOfYear - (153 * index + 2) / 5 + 1) := by
  obtain ⟨short, first, last⟩ := year_found within
  have quotient : (day + 719468).fdiv 146097 = era := by
    rw [Int.fdiv_eq_ediv_of_nonneg _ (by decide)]
    omega
  have rest : (day + 719468 - era * 146097).toNat = dayOfEra := by omega
  have plain (year : Nat) (within : year < 400) : 365 * year + year / 4 - year / 100 = daysBefore year := by
    rw [daysBefore, Nat.div_eq_of_lt within, Nat.add_zero]
  refine ⟨leapless dayOfEra / 365, dayOfEra - daysBefore (leapless dayOfEra / 365), _, short, by omega, last, rfl, ?_⟩
  rw [← plain _ short]
  unfold dateOfDay
  dsimp only
  rw [quotient, rest]
  rfl

/-- The date of a day is one of the calendar, and it counts back to the day. -/
theorem dateOfDay_valid {day year : Int} {month date : Nat} (found : dateOfDay day = (year, month, date)) :
    (1 ≤ month ∧ month ≤ 12) ∧ (1 ≤ date ∧ date ≤ daysInMonth year month) ∧ dayOfDate year month date = day := by
  obtain ⟨era, isEra⟩ : ∃ era, era = (day + 719468) / 146097 := ⟨_, rfl⟩
  obtain ⟨dayOfEra, same⟩ := Int.eq_ofNat_of_zero_le (show 0 ≤ day + 719468 - era * 146097 by omega)
  obtain ⟨yearOfEra, dayOfYear, index, short, split, last, isIndex, parts⟩ :=
    dateOfDay_eq (show day + 719468 = era * 146097 + dayOfEra by omega) (by omega)
  rw [found] at parts
  obtain ⟨rfl, rfl, rfl⟩ : year = _ ∧ month = _ ∧ date = _ := by simpa using parts
  have length := year_length era short
  have few : index < 12 := by split_ifs at length <;> omega
  obtain ⟨months, before, shifted, days⟩ := month_length (era * 400 + yearOfEra) few
  refine ⟨months, ⟨by omega, ?_⟩, ?_⟩
  · rw [days]
    split_ifs at length ⊢ <;> omega
  · rw [dayOfDate_eq, shifted, before, daysBeforeYear_eq era short]
    omega

private theorem daysBeforeYear_later {year later : Int} (before : year ≤ later) :
    daysBeforeYear year + 365 * (later - year) ≤ daysBeforeYear later := by
  unfold daysBeforeYear
  repeat rw [Int.fdiv_eq_ediv_of_nonneg _ (by decide)]
  omega

/-- January and February are the last months of their year. -/
private theorem daysBeforeMonth_bounds {month : Nat} (months : 1 ≤ month ∧ month ≤ 12) :
    if month ≤ 2 then 306 ≤ daysBeforeMonth month ∧ daysBeforeMonth month ≤ 337 else daysBeforeMonth month ≤ 275 := by
  obtain ⟨low, high⟩ := months
  interval_cases month <;> decide

private theorem dayOfDate_lt {year later : Int} {month date laterMonth laterDate : Nat} (before : year < later)
    (months : 1 ≤ month ∧ month ≤ 12) (short : date ≤ 31) (laterMonths : 1 ≤ laterMonth ∧ laterMonth ≤ 12)
    (positive : 1 ≤ laterDate) : dayOfDate year month date < dayOfDate later laterMonth laterDate := by
  have bounds := daysBeforeMonth_bounds months
  have laterBounds := daysBeforeMonth_bounds laterMonths
  have years : shiftedYear year month ≤ shiftedYear later laterMonth := by
    unfold shiftedYear
    split_ifs <;> omega
  have days := daysBeforeYear_later years
  rw [dayOfDate_eq, dayOfDate_eq]
  unfold shiftedYear at days ⊢
  split_ifs at bounds laterBounds days ⊢ <;> omega

/-- The days of the first and the last year have their dates in these years. -/
theorem year_between {day year : Int} {month date : Nat} (found : dateOfDay day = (year, month, date))
    (first : dayOfDate firstYear 1 1 ≤ day) (last : day ≤ dayOfDate lastYear 12 31) :
    firstYear ≤ year ∧ year ≤ lastYear := by
  obtain ⟨months, ⟨positive, short⟩, back⟩ := dateOfDay_valid found
  have most : daysInMonth year month ≤ 31 := by
    unfold daysInMonth
    split_ifs <;> decide
  constructor
  · by_contra early
    have less := dayOfDate_lt (not_le.mp early) months (short.trans most) (show 1 ≤ 1 ∧ 1 ≤ 12 by decide) le_rfl
    omega
  · by_contra late
    have less := dayOfDate_lt (not_le.mp late) (show 1 ≤ 12 ∧ 12 ≤ 12 by decide) le_rfl months positive
    omega

end Date

end ClipRank.Proofs.CalendarDates
