import AutomatedTradingBot.Framework.Datetime

/-!
# Date-times and durations

`t + timedelta` for a date-time at offset zero: the date-time that is so many
microseconds later, when its year is in the range of the calendar.

* `microseconds_of_ofMicroseconds?`: a number of microseconds as a date-time;
* `microseconds_add`: what a duration adds.
-/

namespace ATB.Datetime

/-- The days up to the end of a year. -/
def daysThrough (year : Nat) : Nat := year * 365 + year / 4 - year / 100 + year / 400

/-- The days of a year before a month. -/
def daysBeforeMonth (year month : Nat) : Nat := ((List.range (month - 1)).map fun m => daysInMonth year (m + 1)).sum

/-- The date-time of a number of microseconds from the start of the calendar. -/
def ofMicroseconds? (n : Int) : Option Datetime := do
  let ordinal := (n / 86400000000).toNat
  let clock := (n % 86400000000).toNat
  let year ← ((List.range 9999).find? fun y => ordinal ≤ daysThrough (y + 1)).map (· + 1)
  let day := ordinal - daysThrough (year - 1)
  let month ← ((List.range 12).find? fun m => day ≤ daysBeforeMonth year (m + 2)).map (· + 1)
  let (hour, minute, second, microsecond) :=
    (clock / 3600000000, clock / 60000000 % 60, clock / 1000000 % 60, clock % 1000000)
  if h : RealTime year month (day - daysBeforeMonth year month) hour minute second microsecond then
    some ⟨_, _, _, _, _, _, _, h⟩
  else none

/-- `t + timedelta(microseconds=n)`. -/
def add? (t : Datetime) (n : Int) : Option Datetime := ofMicroseconds? (t.microseconds + n)

theorem microseconds_of_ofMicroseconds? {n : Int} {t : Datetime} (h : ofMicroseconds? n = some t) :
    t.microseconds = n := by
  simp only [ofMicroseconds?, Option.bind_eq_bind, Option.bind_eq_some_iff] at h
  obtain ⟨year, hyear, month, hmonth, h⟩ := h
  split at h
  · rename_i hreal
    cases h
    obtain ⟨⟨hy, -⟩, -, ⟨hd, -⟩, -⟩ := hreal
    simp only [microseconds, toordinal, daysThrough, daysBeforeMonth] at hd ⊢
    omega
  · cases h

theorem microseconds_add {t u : Datetime} {n : Int} (h : t.add? n = some u) : u.microseconds = t.microseconds + n :=
  microseconds_of_ofMicroseconds? h

end ATB.Datetime
