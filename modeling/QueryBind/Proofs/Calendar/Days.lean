import Mathlib.Tactic.IntervalCases
import QueryBind.Calendar.Date

/-!
# Dates and day numbers

Every day number is that of one date, and every date has one: the two directions
undo each other over the whole calendar, leap years included.

Between a date and its day number stand its coordinates: the era, the year of the
era, the month counted from March and the day counted from 0. A date is told by
its coordinates at a glance, and so is a day number. What takes work is to read
the coordinates off a day number again, for years and months are not all of one
length.
-/

namespace QueryBind.Calendar

/-! ## Years of an era -/

/-- Days of an era before a year of it. -/
def daysBeforeYear (year : Int) : Int := 365 * year + year / 4 - year / 100

/-- Days of a year that begins in March, whose leap day belongs to the next year as
January counts. -/
def yearLength (year : Int) : Int := if isLeapYear (year + 1) then 366 else 365

/-- The year that a day of an era is in. -/
def yearOfDay (day : Int) : Int :=
  (day - day / 1460 + day / 36524 - day / 146096) / 365

theorem isLeapYear_iff {year : Int} :
    isLeapYear year = true ↔ year % 4 = 0 ∧ (year % 100 ≠ 0 ∨ year % 400 = 0) := by
  simp [isLeapYear]

/-- An era has as many leap years as the next. -/
theorem yearLength_add (year era : Int) :
    yearLength (year + 400 * era) = yearLength year := by
  have hleap : isLeapYear (year + 400 * era + 1) = isLeapYear (year + 1) := by
    rw [Bool.eq_iff_iff, isLeapYear_iff, isLeapYear_iff]
    omega
  rw [yearLength, yearLength, hleap]

theorem yearLength_pos (year : Int) : 365 ≤ yearLength year ∧ yearLength year ≤ 366 := by
  unfold yearLength
  split <;> omega

/-- A century of an era has 36524 days and four years of a century have 1461, but the
last century and the last four years of a century differ from the others by a day. -/
theorem yearOfDay_parts {c q t d : Int} (hc : 0 ≤ c ∧ c ≤ 3) (hq : 0 ≤ q ∧ q ≤ 24)
    (ht : 0 ≤ t ∧ t ≤ 3) (hd : 0 ≤ d ∧ d ≤ 365)
    (hleap : d = 365 → t = 3 ∧ (q = 24 → c = 3)) :
    yearOfDay (36524 * c + 1461 * q + 365 * t + d) = 100 * c + 4 * q + t := by
  have hyears : (36524 * c + 1461 * q + 365 * t + d) / 1460 =
      25 * c + q + if 1460 ≤ 24 * c + q + 365 * t + d then 1 else 0 := by
    split <;> omega
  have hcenturies : (36524 * c + 1461 * q + 365 * t + d) / 36524 =
      c + if 36524 ≤ 1461 * q + 365 * t + d then 1 else 0 := by
    split <;> omega
  have hera : (36524 * c + 1461 * q + 365 * t + d) / 146096 =
      if 36524 ≤ 1461 * q + 365 * t + d then 1 else 0 := by
    split <;> omega
  rw [yearOfDay, hyears, hcenturies, hera]
  split <;> split <;> omega

/-- A day is in the year whose days it is one of. -/
theorem yearOfDay_daysBeforeYear {year day : Int} (hyear : 0 ≤ year ∧ year < 400)
    (hday : 0 ≤ day ∧ day < yearLength year) :
    yearOfDay (daysBeforeYear year + day) = year := by
  have hleap : day = 365 → isLeapYear (year + 1) = true := by
    intro hlast
    by_contra hnot
    rw [yearLength, if_neg hnot] at hday
    omega
  rw [isLeapYear_iff] at hleap
  have hlength := yearLength_pos year
  have hparts := yearOfDay_parts (c := year / 100) (q := year % 100 / 4) (t := year % 4)
    (d := day) (by omega) (by omega) (by omega) (by omega) (by omega)
  have hdays : daysBeforeYear year + day =
      36524 * (year / 100) + 1461 * (year % 100 / 4) + 365 * (year % 4) + day := by
    unfold daysBeforeYear
    omega
  rw [hdays, hparts]
  omega

/-- Every day of an era is in a year of it. -/
theorem exists_year {n : Int} (hn : 0 ≤ n ∧ n < 146097) :
    ∃ year day, (0 ≤ year ∧ year < 400) ∧ (0 ≤ day ∧ day < yearLength year) ∧
      n = daysBeforeYear year + day := by
  obtain ⟨c, r, hc, hr, hcentury, rfl⟩ : ∃ c r : Int, (0 ≤ c ∧ c ≤ 3) ∧
      (0 ≤ r ∧ r ≤ 36524) ∧ (r = 36524 → c = 3) ∧ n = 36524 * c + r :=
    ⟨min 3 (n / 36524), n - 36524 * min 3 (n / 36524),
      by omega, by omega, by omega, by omega⟩
  obtain ⟨q, s, hq, hs, hcycle, rfl⟩ : ∃ q s : Int, (0 ≤ q ∧ q ≤ 24) ∧
      (0 ≤ s ∧ s ≤ 1460) ∧ (s = 1460 → q = 24 → c = 3) ∧ r = 1461 * q + s :=
    ⟨r / 1461, r % 1461, by omega, by omega, by omega, by omega⟩
  obtain ⟨t, d, ht, hd, hlast, rfl⟩ : ∃ t d : Int, (0 ≤ t ∧ t ≤ 3) ∧
      (0 ≤ d ∧ d ≤ 365) ∧ (d = 365 → t = 3 ∧ (q = 24 → c = 3)) ∧ s = 365 * t + d :=
    ⟨min 3 (s / 365), s - 365 * min 3 (s / 365),
      by omega, by omega, by omega, by omega⟩
  refine ⟨100 * c + 4 * q + t, d, by omega, ⟨hd.1, ?_⟩, ?_⟩
  · unfold yearLength
    split
    · omega
    · next hnot =>
        rw [isLeapYear_iff] at hnot
        omega
  · have hcycles : (100 * c + 4 * q + t) / 4 = 25 * c + q := by omega
    have hcenturies : (100 * c + 4 * q + t) / 100 = c := by omega
    rw [daysBeforeYear, hcycles, hcenturies]
    omega

/-! ## Months of a year -/

/-- The month that a day of a year is in, March being 0. -/
def monthOfDay (day : Int) : Int := (5 * day + 2) / 153

/-- Days of a month, March being 0. The year ends with February, so only the last
month depends on the year. -/
def monthLength (year month : Int) : Int :=
  if month = 11 then yearLength year - daysBeforeMonth 11
  else daysBeforeMonth (month + 1) - daysBeforeMonth month

theorem monthOfDay_daysBeforeMonth {year month day : Int}
    (hmonth : 0 ≤ month ∧ month ≤ 11) (hday : 0 ≤ day ∧ day < monthLength year month) :
    monthOfDay (daysBeforeMonth month + day) = month ∧
      daysBeforeMonth month + day < yearLength year := by
  have hlength := yearLength_pos year
  unfold monthLength at hday
  unfold monthOfDay
  unfold daysBeforeMonth at hday ⊢
  split at hday <;> omega

/-- Every day of a year is in a month of it. -/
theorem exists_month {year n : Int} (hn : 0 ≤ n ∧ n < yearLength year) :
    ∃ month day, (0 ≤ month ∧ month ≤ 11) ∧
      (0 ≤ day ∧ day < monthLength year month) ∧ n = daysBeforeMonth month + day := by
  have hlength := yearLength_pos year
  refine ⟨monthOfDay n, n - daysBeforeMonth (monthOfDay n), ?_, ?_, by omega⟩
  · unfold monthOfDay
    omega
  · unfold monthLength monthOfDay daysBeforeMonth
    split <;> omega

/-! ## Coordinates -/

/-- Where a day stands among eras, years and months; months and days count from 0. -/
structure Coordinates where
  era : Int
  year : Int
  month : Int
  day : Int

namespace Coordinates

/-- There is such a year in an era, such a month in a year and such a day in that
month. -/
structure IsValid (p : Coordinates) : Prop where
  year : 0 ≤ p.year ∧ p.year < 400
  month : 0 ≤ p.month ∧ p.month ≤ 11
  day : 0 ≤ p.day ∧ p.day < monthLength p.year p.month

/-- The day among those of the era. -/
def dayOfEra (p : Coordinates) : Int :=
  daysBeforeYear p.year + (daysBeforeMonth p.month + p.day)

/-- The day number at some coordinates. -/
def number (p : Coordinates) : Int := 146097 * p.era + p.dayOfEra - epochShift

/-- The date at some coordinates. -/
def date (p : Coordinates) : Date :=
  { year := if p.month < 10 then p.year + 400 * p.era else p.year + 400 * p.era + 1
    month := (if p.month < 10 then p.month + 3 else p.month - 9).toNat
    day := (p.day + 1).toNat }

/-- The coordinates that are read off a day number. -/
def ofNumber (n : Int) : Coordinates :=
  let dayOfEra := (n + epochShift) % 146097
  let year := yearOfDay dayOfEra
  let dayOfYear := dayOfEra - daysBeforeYear year
  let month := monthOfDay dayOfYear
  ⟨(n + epochShift) / 146097, year, month, dayOfYear - daysBeforeMonth month⟩

theorem ofDayNumber_eq (n : Int) : Date.ofDayNumber n = (ofNumber n).date := rfl

theorem ofNumber_number {p : Coordinates} (h : p.IsValid) : ofNumber p.number = p := by
  obtain ⟨hmonth, hlt⟩ := monthOfDay_daysBeforeMonth h.month h.day
  have hdayOfYear : 0 ≤ daysBeforeMonth p.month + p.day := by
    have hmonth_bounds := h.month
    have hday_bounds := h.day
    unfold daysBeforeMonth
    omega
  have hyear := yearOfDay_daysBeforeYear h.year ⟨hdayOfYear, hlt⟩
  -- The day is one of its era, so division gives both back.
  have hera : 0 ≤ p.dayOfEra ∧ p.dayOfEra < 146097 := by
    have hyear_bounds := h.year
    have hlength := yearLength_pos p.year
    unfold dayOfEra daysBeforeYear
    omega
  have hmod : (p.number + epochShift) % 146097 = p.dayOfEra := by
    unfold number
    omega
  have hdiv : (p.number + epochShift) / 146097 = p.era := by
    unfold number
    omega
  simp only [ofNumber, hmod, hdiv]
  simp only [dayOfEra, hyear, add_sub_cancel_left, hmonth]

/-- Every day number has coordinates. -/
theorem exists_number (n : Int) : ∃ p : Coordinates, p.IsValid ∧ p.number = n := by
  obtain ⟨year, dayOfYear, hyear, hdayOfYear, hera⟩ :=
    exists_year (n := (n + epochShift) % 146097) (by omega)
  obtain ⟨month, day, hmonth, hday, rfl⟩ := exists_month hdayOfYear
  refine ⟨⟨(n + epochShift) / 146097, year, month, day⟩, ⟨hyear, hmonth, hday⟩, ?_⟩
  show 146097 * ((n + epochShift) / 146097) +
    (daysBeforeYear year + (daysBeforeMonth month + day)) - epochShift = n
  omega

/-- A month of coordinates is as long as the month of the calendar. -/
theorem daysInMonth_date {p : Coordinates} (hmonth : 0 ≤ p.month ∧ p.month ≤ 11) :
    (daysInMonth p.date.year p.date.month : Int) = monthLength p.year p.month := by
  obtain ⟨era, year, month, day⟩ := p
  have hlength := yearLength_add year era
  obtain ⟨hlow, hhigh⟩ : 0 ≤ month ∧ month ≤ 11 := hmonth
  simp only [date, monthLength, ← hlength]
  interval_cases month <;> simp [daysInMonth, daysBeforeMonth, yearLength]
  split <;> rfl

/-- The day number of a date is that of its coordinates. -/
theorem dayNumber_date {p : Coordinates} (h : p.IsValid) :
    p.date.dayNumber = p.number := by
  have hmonth_bounds := h.month
  have hyear : (if p.date.month ≤ 2 then p.date.year - 1 else p.date.year) =
      p.year + 400 * p.era := by
    simp only [date]
    split <;> omega
  have hmonth : (if p.date.month ≤ 2 then (p.date.month : Int) + 9
      else p.date.month - 3) = p.month := by
    simp only [date]
    split <;> omega
  have hday : (p.date.day : Int) = p.day + 1 := by
    have := h.day
    simp only [date]
    omega
  have hera : (p.year + 400 * p.era) / 400 = p.era := by
    have := h.year
    omega
  have hyearOfEra : (p.year + 400 * p.era) % 400 = p.year := by
    have := h.year
    omega
  simp only [Date.dayNumber, hyear, hmonth, hday, hera, hyearOfEra]
  unfold number dayOfEra daysBeforeYear
  omega

end Coordinates

/-! ## Dates -/

/-- There is such a month in a year and such a day in that month. -/
def Date.Exists (d : Date) : Prop := 1 ≤ d.day ∧ d.day ≤ daysInMonth d.year d.month

theorem Date.isValid_iff {d : Date} :
    d.IsValid ↔ (firstYear ≤ d.year ∧ d.year ≤ lastYear) ∧ d.Exists := by
  rw [IsValid, Exists, and_assoc]

theorem daysInMonth_le (year : Int) (month : Nat) : daysInMonth year month ≤ 31 := by
  unfold daysInMonth
  repeat' split
  all_goals decide

theorem Date.Exists.month_bounds {d : Date} (h : d.Exists) : 1 ≤ d.month ∧ d.month ≤ 12 := by
  obtain ⟨hday, hlast⟩ := h
  by_contra hnot
  have hnone : daysInMonth d.year d.month = 0 := by
    unfold daysInMonth
    split <;> omega
  omega

/-- The coordinates of a date. -/
def Date.coordinates (d : Date) : Coordinates :=
  let year := if d.month ≤ 2 then d.year - 1 else d.year
  ⟨year / 400, year % 400, if d.month ≤ 2 then d.month + 9 else d.month - 3, d.day - 1⟩

theorem Date.date_coordinates {d : Date} (h : d.Exists) : d.coordinates.date = d := by
  have hmonth := h.month_bounds
  have hday := h.1
  obtain ⟨year, month, day⟩ := d
  dsimp only at hmonth hday
  simp only [coordinates, Coordinates.date, Date.mk.injEq]
  refine ⟨?_, ?_, by omega⟩
  · split <;> split <;> omega
  · split <;> split <;> omega

/-- Every date that exists is at some coordinates, and at any there is one. -/
theorem Date.exists_iff {d : Date} :
    d.Exists ↔ ∃ p : Coordinates, p.IsValid ∧ p.date = d := by
  constructor
  · intro h
    have hmonth : 0 ≤ d.coordinates.month ∧ d.coordinates.month ≤ 11 := by
      have hmonth_bounds := h.month_bounds
      simp only [coordinates]
      split <;> omega
    have hlength := Coordinates.daysInMonth_date hmonth
    rw [date_coordinates h] at hlength
    refine ⟨d.coordinates, ⟨?_, hmonth, ?_⟩, date_coordinates h⟩
    · simp only [coordinates]
      omega
    · obtain ⟨hday, hlast⟩ := h
      rw [← hlength]
      simp only [coordinates]
      omega
  · rintro ⟨p, hp, rfl⟩
    have hlength := Coordinates.daysInMonth_date hp.month
    have hday := hp.day
    have hdate : p.date.day = (p.day + 1).toNat := rfl
    constructor <;> omega

namespace Date

/-- The date of a day number exists, and the number is its own. -/
theorem dayNumber_ofDayNumber (n : Int) :
    (ofDayNumber n).Exists ∧ (ofDayNumber n).dayNumber = n := by
  obtain ⟨p, hp, rfl⟩ := Coordinates.exists_number n
  rw [Coordinates.ofDayNumber_eq, Coordinates.ofNumber_number hp]
  exact ⟨exists_iff.mpr ⟨p, hp, rfl⟩, Coordinates.dayNumber_date hp⟩

/-- A date that exists is the date of its day number. -/
theorem ofDayNumber_dayNumber {d : Date} (h : d.Exists) :
    ofDayNumber d.dayNumber = d := by
  obtain ⟨p, hp, rfl⟩ := exists_iff.mp h
  rw [Coordinates.dayNumber_date hp, Coordinates.ofDayNumber_eq,
    Coordinates.ofNumber_number hp]

/-- The calendar's dates and their day numbers. -/
theorem ofDayNumber?_eq_some_iff {n : Int} {d : Date} :
    ofDayNumber? n = some d ↔ d.IsValid ∧ d.dayNumber = n := by
  rw [isValid_iff, ofDayNumber?]
  constructor
  · intro h
    split at h
    · next hyear =>
        cases h
        obtain ⟨hexists, hnumber⟩ := dayNumber_ofDayNumber n
        exact ⟨⟨hyear, hexists⟩, hnumber⟩
    · cases h
  · rintro ⟨⟨hyear, hexists⟩, rfl⟩
    rw [ofDayNumber_dayNumber hexists, if_pos hyear]

/-! ## Days of the common era -/

/-- Which day of its year a date is. -/
def ordinal (d : Date) : Nat :=
  ((List.range d.month).map (daysInMonth d.year)).sum + d.day

/-- The months before one in its year, told by the months from March on: January and
February end the year that began in March, and the others have both before them. -/
theorem ordinal_eq {d : Date} (h : d.Exists) :
    (d.ordinal : Int) = d.day +
      if d.month ≤ 2 then daysBeforeMonth (d.month + 9) - daysBeforeMonth 10
      else daysBeforeMonth (d.month - 3) + if isLeapYear d.year then 60 else 59 := by
  obtain ⟨hlow, hhigh⟩ := h.month_bounds
  obtain ⟨year, month, day⟩ := d
  dsimp only at hlow hhigh ⊢
  cases hleap : isLeapYear year <;> interval_cases month <;>
    simp [ordinal, daysInMonth, daysBeforeMonth, List.range_succ, hleap] <;> omega

/-- Days up to a date from the first of January of the year 1, which is day 1: those of
the years before, every fourth with a leap day unless it ends a century that is no
fourth one, and those of its own year. -/
def commonEraDay (d : Date) : Int :=
  365 * (d.year - 1) + (d.year - 1) / 4 - (d.year - 1) / 100 + (d.year - 1) / 400 + d.ordinal

/-- The first of January 1970. -/
def epochDay : Int := 719163

/-- Day numbers are the days of the common era, counted from 1970. -/
theorem commonEraDay_eq {d : Date} (h : d.Exists) :
    d.commonEraDay = d.dayNumber + epochDay := by
  have hfirst : daysBeforeMonth 10 = 306 := rfl
  rw [commonEraDay, ordinal_eq h]
  simp only [dayNumber, epochDay, epochShift]
  by_cases hmonth : d.month ≤ 2
  · simp only [if_pos hmonth, hfirst]
    omega
  · simp only [if_neg hmonth]
    by_cases hcount : isLeapYear d.year = true
    · have hyear := isLeapYear_iff.mp hcount
      rw [if_pos hcount]
      omega
    · have hyear := isLeapYear_iff.not.mp hcount
      rw [if_neg hcount]
      omega

example : (⟨1970, 1, 1⟩ : Date).commonEraDay = epochDay := by decide

end Date

end QueryBind.Calendar
