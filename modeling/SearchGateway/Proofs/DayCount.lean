import Mathlib.Tactic.Lemma
import SearchGateway.Calendar.Instant

/-!
# Counting days and minutes

The days of the calendar are numbered without a gap, so that the day after a date has the next
number and no two dates share one (`dayNumber_injective`).  With the number of its day, every minute
has a number as well.

A clock that is ahead of universal time shows a later minute.  What `Instant.ofLocal` makes of the
time on such a clock has the number of the shown minute less the offset, whether or not this
leads to another day, month or year (`minuteNumber_ofLocal`).  As an instant is determined by its
minute, its second and its fraction, this says which instant it is.
-/
namespace SearchGateway.Calendar

/-! ## Years and months -/

/-- The number of days between the year 0 and the beginning of a year. -/
def daysBeforeYear (year : Int) : Int :=
  365 * year + (year + 3) / 4 - (year + 99) / 100 + (year + 399) / 400

/-- The number of days in the first months of a year. -/
def daysInMonths (year : Int) : Nat → Nat
  | 0 => 0
  | month + 1 => daysInMonths year month + daysInMonth year (month + 1)

variable {year year' : Int} {month month' day day' : Nat}

lemma isLeapYear_iff (year : Int) :
    isLeapYear year = true ↔ year % 4 = 0 ∧ (year % 100 ≠ 0 ∨ year % 400 = 0) := by
  simp [isLeapYear]

lemma daysInMonths_of_pos (year : Int) (h : 1 ≤ month) :
    daysInMonths year month = daysInMonths year (month - 1) + daysInMonth year month := by
  obtain ⟨before, rfl⟩ := Nat.exists_eq_add_of_le' h
  rfl

lemma daysInMonths_twelve (year : Int) :
    daysInMonths year 12 = if isLeapYear year then 366 else 365 := by
  simp only [daysInMonths, daysInMonth]
  split <;> omega

/-- A year begins when the one before it is over. -/
lemma daysBeforeYear_succ (year : Int) :
    daysBeforeYear (year + 1) = daysBeforeYear year + daysInMonths year 12 := by
  rw [daysInMonths_twelve]
  simp only [daysBeforeYear]
  split
  next hleap =>
    rw [isLeapYear_iff] at hleap
    omega
  next hleap =>
    rw [isLeapYear_iff] at hleap
    omega

lemma daysInMonths_mono (h : month ≤ month') :
    daysInMonths year month ≤ daysInMonths year month' := by
  induction h with
  | refl => exact Nat.le_refl _
  | step _ ih => exact Nat.le_trans ih (Nat.le_add_right _ _)

lemma daysBeforeYear_mono (h : year ≤ year') : daysBeforeYear year ≤ daysBeforeYear year' := by
  simp only [daysBeforeYear]
  omega

/-! ## Days -/

namespace Date

variable {d e : Date}

lemma eq_of_parts (hyear : d.year = e.year) (hmonth : d.month = e.month) (hday : d.day = e.day) :
    d = e := by
  cases d
  cases e
  subst hyear hmonth hday
  rfl

/-- The number of a day within its year. -/
def dayOfYear (d : Date) : Nat := daysInMonths d.year (d.month - 1) + d.day

/-- The number of a day. -/
def dayNumber (d : Date) : Int := daysBeforeYear d.year + d.dayOfYear

/-- The days of a month come after those of the months before it. -/
lemma dayOfYear_le (d : Date) : d.dayOfYear ≤ daysInMonths d.year d.month := by
  have hday := d.day_le
  rw [dayOfYear, daysInMonths_of_pos d.year d.one_le_month]
  omega

lemma dayOfYear_le_twelve (d : Date) : d.dayOfYear ≤ daysInMonths d.year 12 :=
  Nat.le_trans d.dayOfYear_le (daysInMonths_mono d.month_le)

lemma one_le_dayOfYear (d : Date) : 1 ≤ d.dayOfYear := by
  have hday := d.one_le_day
  rw [dayOfYear]
  omega

lemma dayNumber_lt_of_year_lt (h : d.year < e.year) : d.dayNumber < e.dayNumber := by
  have hle : daysBeforeYear (d.year + 1) ≤ daysBeforeYear e.year := daysBeforeYear_mono h
  have hd := d.dayOfYear_le_twelve
  have he := e.one_le_dayOfYear
  rw [daysBeforeYear_succ] at hle
  rw [dayNumber, dayNumber]
  omega

lemma dayOfYear_lt_of_month_lt (hyear : d.year = e.year) (h : d.month < e.month) :
    d.dayOfYear < e.dayOfYear := by
  have hle : daysInMonths d.year d.month ≤ daysInMonths d.year (e.month - 1) :=
    daysInMonths_mono (by omega)
  have hd := d.dayOfYear_le
  have he := e.one_le_day
  rw [dayOfYear.eq_def e, ← hyear]
  omega

/-- No two dates have the same number. -/
theorem dayNumber_injective : Function.Injective dayNumber := by
  intro d e h
  have hyear : d.year = e.year := by
    rcases Int.lt_trichotomy d.year e.year with hlt | heq | hgt
    · exact absurd h (Int.ne_of_lt (dayNumber_lt_of_year_lt hlt))
    · exact heq
    · exact absurd h.symm (Int.ne_of_lt (dayNumber_lt_of_year_lt hgt))
  have hofYear : d.dayOfYear = e.dayOfYear := by
    rw [dayNumber, dayNumber, hyear] at h
    omega
  have hmonth : d.month = e.month := by
    rcases Nat.lt_trichotomy d.month e.month with hlt | heq | hgt
    · exact absurd hofYear (Nat.ne_of_lt (dayOfYear_lt_of_month_lt hyear hlt))
    · exact heq
    · exact absurd hofYear.symm (Nat.ne_of_lt (dayOfYear_lt_of_month_lt hyear.symm hgt))
  have hday : d.day = e.day := by
    rw [dayOfYear, dayOfYear, hyear, hmonth] at hofYear
    omega
  exact eq_of_parts hyear hmonth hday

theorem dayNumber_next (d : Date) : d.next.dayNumber = d.dayNumber + 1 := by
  have hle := d.day_le
  rw [next]
  split
  · simp only [dayNumber, dayOfYear]
    omega
  next hlast =>
    -- the last day of a month
    have hday : d.day = daysInMonth d.year d.month := by omega
    have hsum := daysInMonths_of_pos d.year d.one_le_month
    split
    · simp only [dayNumber, dayOfYear, Nat.add_sub_cancel]
      omega
    next htwelve =>
      -- the last day of the year
      have hdecember : d.month = 12 := by
        have := d.month_le
        omega
      have hfirst : daysInMonths (d.year + 1) (1 - 1) = 0 := rfl
      rw [hdecember] at hsum hday
      simp only [dayNumber, dayOfYear, hfirst, daysBeforeYear_succ, hdecember, hsum]
      omega

/-- The day before is the day that a date is the day after of. -/
theorem dayNumber_prev (d : Date) : d.prev.dayNumber = d.dayNumber - 1 := by
  have hone := d.one_le_month
  rw [prev]
  split
  · simp only [dayNumber, dayOfYear]
    omega
  next hfirst =>
    have hday : d.day = 1 := by
      have := d.one_le_day
      omega
    split
    next hmonth =>
      have hbefore : 1 ≤ d.month - 1 := by omega
      have hsum := daysInMonths_of_pos d.year hbefore
      simp only [dayNumber, dayOfYear]
      omega
    next hmonth =>
      -- the first day of the year
      have hjanuary : d.month = 1 := by omega
      have hbefore := daysBeforeYear_succ (d.year - 1)
      have hlast : daysInMonths (d.year - 1) 12 = daysInMonths (d.year - 1) (12 - 1) + 31 := rfl
      have hnone : daysInMonths d.year (1 - 1) = 0 := rfl
      rw [Int.sub_add_cancel, hlast] at hbefore
      simp only [dayNumber, dayOfYear, hjanuary, hnone]
      omega

end Date

/-! ## Minutes -/

namespace Instant

variable {t t' : Instant}

/-- The number of the minute of an instant. -/
def minuteNumber (t : Instant) : Int := t.date.dayNumber * 1440 + t.hour * 60 + t.minute

/-- An instant is determined by its minute, its second and its fraction. -/
theorem eq_of_minuteNumber_eq (hminutes : t.minuteNumber = t'.minuteNumber)
    (hsecond : t.second = t'.second) (hnano : t.nano = t'.nano) : t = t' := by
  have hhour := t.hour_lt
  have hhour' := t'.hour_lt
  have hminute := t.minute_lt
  have hminute' := t'.minute_lt
  rw [minuteNumber, minuteNumber] at hminutes
  have hday : t.date.dayNumber = t'.date.dayNumber := by omega
  have hdate : t.date = t'.date := Date.dayNumber_injective hday
  have hhours : t.hour = t'.hour := by omega
  have hminutesOfHour : t.minute = t'.minute := by omega
  cases t
  cases t'
  subst hdate hhours hminutesOfHour hsecond hnano
  rfl

theorem wholeSecond_eq_iff :
    t.wholeSecond = t'.wholeSecond ↔
      t.minuteNumber = t'.minuteNumber ∧ t.second = t'.second := by
  constructor
  · intro h
    have hminutes := congrArg minuteNumber h
    have hseconds := congrArg second h
    exact ⟨hminutes, hseconds⟩
  · rintro ⟨hminutes, hsecond⟩
    exact eq_of_minuteNumber_eq hminutes hsecond rfl

/-- The time on a clock that is ahead by less than a day. -/
theorem minuteNumber_ofLocal {offset : Int} (hlow : -1440 < offset) (hhigh : offset < 1440)
    (t : Instant) : (ofLocal t offset).minuteNumber = t.minuteNumber - offset := by
  have hhour := t.hour_lt
  have hminute := t.minute_lt
  simp only [minuteNumber, ofLocal]
  split
  · -- it is the day before in universal time
    rw [Date.dayNumber_prev]
    omega
  · split
    · omega
    · -- it is the day after in universal time
      rw [Date.dayNumber_next]
      omega

lemma second_ofLocal (t : Instant) (offset : Int) : (ofLocal t offset).second = t.second := rfl

lemma nano_ofLocal (t : Instant) (offset : Int) : (ofLocal t offset).nano = t.nano := rfl

/-- A clock that shows universal time shows the instant itself. -/
lemma ofLocal_zero (t : Instant) : ofLocal t 0 = t := by
  apply eq_of_minuteNumber_eq
  · rw [minuteNumber_ofLocal (by omega) (by omega), Int.sub_zero]
  · exact second_ofLocal t 0
  · exact nano_ofLocal t 0

end Instant

end SearchGateway.Calendar
