import PriceRelay.Calendar.Moment
/-!
The calendar: every second since the epoch has a valid moment, which is read back as that second,
and seconds follow the order of years, months, days and times of day.
-/

namespace PriceRelay.Moment

/-- A number of days falls into the units of a division, of which the last may be longer by one. -/
theorem exists_division (size last days : Nat) (positive : 0 < size)
    (bound : days ≤ size * last + size) :
    ∃ unit rest, days = size * unit + rest ∧ unit ≤ last ∧
      (rest < size ∨ (unit = last ∧ rest = size)) := by
  by_cases longer : days = size * last + size
  · exact ⟨last, size, longer, Nat.le_refl _, .inr ⟨rfl, rfl⟩⟩
  · have below : days / size < last + 1 :=
      Nat.div_lt_of_lt_mul (by rw [Nat.mul_succ]; omega)
    exact ⟨days / size, days % size, (Nat.div_add_mod days size).symm, Nat.le_of_lt_succ below,
      .inl (Nat.mod_lt _ positive)⟩

/-- The days of an era of 400 years before one of its years, counted from March. -/
def daysBefore (year : Nat) : Nat := 365 * year + year / 4 - year / 100

def yearOfEra (day : Nat) : Nat := (day - day / 1460 + day / 36524 - day / 146096) / 365

section

variable {century cycle year day : Nat}

theorem daysBefore_eq (inCentury : cycle ≤ 24) (inCycle : year ≤ 3) :
    daysBefore (100 * century + 4 * cycle + year) =
      36524 * century + 1461 * cycle + 365 * year := by
  unfold daysBefore
  omega

/-- The quotients that correct a day for leap years, by century and then by cycle. -/
theorem yearOfEra_eq (inEra : century ≤ 3) (inCentury : cycle ≤ 24) (inCycle : year ≤ 3)
    (inYear : day ≤ 364 + year / 3)
    (short : 1461 * cycle + 365 * year + day < 36524) :
    yearOfEra (36524 * century + (1461 * cycle + (365 * year + day))) =
      100 * century + 4 * cycle + year := by
  have leaps : ∀ rest, (36524 * century + rest) / 1460 =
      25 * century + (24 * century + rest) / 1460 := by
    intro rest
    omega
  have cycles : ∀ rest, (24 * century + (1461 * cycle + rest)) / 1460 =
      cycle + (24 * century + cycle + rest) / 1460 := by
    intro rest
    omega
  have centuries : (36524 * century + (1461 * cycle + (365 * year + day))) / 36524 = century := by
    omega
  have eras : (36524 * century + (1461 * cycle + (365 * year + day))) / 146096 = 0 := by
    omega
  have years : (1460 * cycle + (365 * year + day) -
      (24 * century + cycle + (365 * year + day)) / 1460) / 365 = 4 * cycle + year := by
    omega
  unfold yearOfEra
  rw [leaps, cycles, centuries, eras]
  omega

end

/-- A day of an era lies in its year; only a leap day is the 366th, and it is the last. -/
theorem yearOfEra_spec {day : Nat} (inEra : day < 146097) :
    yearOfEra day ≤ 399 ∧ daysBefore (yearOfEra day) ≤ day ∧
      (day < daysBefore (yearOfEra day) + 365 ∨
        day = daysBefore (yearOfEra day) + 365 ∧ isLeap (yearOfEra day + 1) = true) := by
  obtain ⟨century, inCentury, byCentury, first, short⟩ :=
    exists_division 36524 3 day (by decide) (by omega)
  obtain ⟨cycle, inCycle, byCycle, second, _⟩ :=
    exists_division 1461 24 inCentury (by decide) (by omega)
  obtain ⟨year, ofYear, byYear, third, leap⟩ :=
    exists_division 365 3 inCycle (by decide) (by omega)
  subst byYear byCycle byCentury
  rcases short with short | ⟨rfl, full⟩
  · rw [yearOfEra_eq first second third (by omega) (by omega), daysBefore_eq second third]
    refine ⟨by omega, by omega, ?_⟩
    rcases leap with inside | ⟨rfl, rfl⟩
    · exact .inl (by omega)
    · refine .inr ⟨by omega, ?_⟩
      simp only [isLeap, Bool.and_eq_true, Bool.or_eq_true, decide_eq_true_eq]
      omega
  · have last : 36524 * 3 + (1461 * cycle + (365 * year + ofYear)) = 146096 := by omega
    rw [last]
    decide

theorem daysBefore_era {year : Nat} (inEra : year ≤ 399) (era : Nat) :
    365 * (year + era * 400) + (year + era * 400) / 4 - (year + era * 400) / 100 +
      (year + era * 400) / 400 = daysBefore year + 146097 * era := by
  have fourths : (year + era * 400) / 4 = year / 4 + 100 * era := by omega
  have centuries : (year + era * 400) / 100 = year / 100 + 4 * era := by omega
  have eras : (year + era * 400) / 400 = era := by omega
  rw [fourths, centuries, eras, daysBefore]
  omega

theorem isLeap_era (year era : Nat) : isLeap (year + era * 400) = isLeap year := by
  have fourths : (year + era * 400) % 4 = year % 4 := by omega
  have centuries : (year + era * 400) % 100 = year % 100 := by omega
  have eras : (year + era * 400) % 400 = year % 400 := by omega
  simp only [isLeap, fourths, centuries, eras]

/-- Months counted from March: the days before them, and how many of them there are. -/
theorem monthOfYear_spec {day : Nat} (inYear : day ≤ 365) :
    (5 * day + 2) / 153 ≤ 11 ∧ (153 * ((5 * day + 2) / 153) + 2) / 5 ≤ day ∧
      day < (153 * ((5 * day + 2) / 153 + 1) + 2) / 5 := by
  omega

/-- The days before a date, from the first of March of the year 0. -/
def dayCount (year month day : Nat) : Nat :=
  let shifted := if month ≤ 2 then year - 1 else year
  let fromMarch := if month ≤ 2 then month + 9 else month - 3
  365 * shifted + shifted / 4 - shifted / 100 + shifted / 400 + (153 * fromMarch + 2) / 5 + day - 1

theorem dayNumber_eq (year month day : Nat) :
    dayNumber year month day = dayCount year month day - 719468 := by
  unfold dayNumber dayCount
  rfl

/-- A date in a year that begins in March. -/
structure MarchDate where
  year : Nat
  /-- March is the month 0. -/
  month : Nat
  day : Nat

namespace MarchDate

/-- Every month but the last has the days up to the next one; the last is February. -/
structure Valid (date : MarchDate) : Prop where
  month : date.month ≤ 11
  first : 1 ≤ date.day
  last : (153 * date.month + 2) / 5 + date.day ≤ (153 * (date.month + 1) + 2) / 5
  february : date.month = 11 → date.day ≤ 28 ∨ date.day = 29 ∧ isLeap (date.year + 1) = true

def calendar (date : MarchDate) : Nat × Nat × Nat :=
  if date.month < 10 then (date.year, date.month + 3, date.day)
  else (date.year + 1, date.month - 9, date.day)

def ofDay (days : Nat) : MarchDate :=
  let ofYear := days % 146097 - daysBefore (yearOfEra (days % 146097))
  let month := (5 * ofYear + 2) / 153
  ⟨yearOfEra (days % 146097) + days / 146097 * 400, month, ofYear - (153 * month + 2) / 5 + 1⟩

def number (date : MarchDate) : Nat :=
  365 * date.year + date.year / 4 - date.year / 100 + date.year / 400 +
    (153 * date.month + 2) / 5 + date.day - 1

theorem valid_ofDay (days : Nat) : (ofDay days).Valid := by
  have inEra : days % 146097 < 146097 := Nat.mod_lt _ (by decide)
  obtain ⟨_, before, late⟩ := yearOfEra_spec inEra
  have inYear : days % 146097 - daysBefore (yearOfEra (days % 146097)) ≤ 365 := by omega
  obtain ⟨inMonths, fromFirst, beforeNext⟩ := monthOfYear_spec inYear
  refine ⟨inMonths, Nat.le_add_left _ _, ?_, ?_⟩
  · simp only [ofDay]
    omega
  · intro february
    simp only [ofDay] at february ⊢
    rcases late with ordinary | ⟨leapDay, leap⟩
    · exact .inl (by omega)
    · refine .inr ⟨by omega, ?_⟩
      rw [Nat.add_right_comm, isLeap_era]
      exact leap

theorem number_ofDay (days : Nat) : (ofDay days).number = days := by
  have split := Nat.div_add_mod days 146097
  have inEra : days % 146097 < 146097 := Nat.mod_lt _ (by decide)
  obtain ⟨early, before, late⟩ := yearOfEra_spec inEra
  have inYear : days % 146097 - daysBefore (yearOfEra (days % 146097)) ≤ 365 := by omega
  obtain ⟨_, fromFirst, _⟩ := monthOfYear_spec inYear
  simp only [number, ofDay, daysBefore_era early]
  omega

theorem dayCount_calendar {date : MarchDate} (inYear : date.month ≤ 11) :
    dayCount date.calendar.1 date.calendar.2.1 date.calendar.2.2 = date.number := by
  unfold calendar dayCount number
  by_cases early : date.month < 10
  · have later : ¬ date.month + 3 ≤ 2 := by omega
    simp only [early, later, if_true, if_false, Nat.add_sub_cancel]
  · have within : date.month - 9 ≤ 2 := by omega
    have back : date.month - 9 + 9 = date.month := by omega
    simp only [early, within, back, if_true, if_false, Nat.add_sub_cancel]

theorem calendar_eq {date : MarchDate} (inYear : date.month ≤ 11) :
    date.calendar = (date.year + (if (if date.month < 10 then date.month + 3
      else date.month - 9) ≤ 2 then 1 else 0),
      (if date.month < 10 then date.month + 3 else date.month - 9), date.day) := by
  unfold calendar
  by_cases early : date.month < 10
  · simp [early]
  · have within : date.month - 9 ≤ 2 := by omega
    simp [early, within]

/-- The days of the calendar's months are those of the months from March. -/
theorem day_le_daysInMonth {date : MarchDate} (valid : date.Valid) :
    date.calendar.2.2 ≤ daysInMonth date.calendar.1 date.calendar.2.1 := by
  obtain ⟨inYear, _, last, february⟩ := valid
  unfold calendar
  by_cases early : date.month < 10
  · have other : date.month + 3 ≠ 2 := by omega
    simp only [early, if_true, daysInMonth, if_neg other, Bool.or_eq_true, decide_eq_true_eq]
    split <;> omega
  · simp only [early, if_false]
    by_cases ends : date.month = 11
    · rcases february ends with short | ⟨same, leap⟩
      · simp only [ends, daysInMonth, if_true]
        split <;> omega
      · simp [ends, daysInMonth, leap, same]
    · have january : date.month = 10 := by omega
      have length : daysInMonth (date.year + 1) (date.month - 9) = 31 := by
        rw [january]
        rfl
      rw [length]
      omega

theorem since_calendar {date : MarchDate} (valid : date.Valid) (since : 719468 ≤ date.number) :
    1970 ≤ date.calendar.1 := by
  obtain ⟨inYear, _, last, _⟩ := valid
  unfold number at since
  unfold calendar
  by_cases early : date.month < 10
  · simp only [early, if_true]
    omega
  · simp only [early, if_false]
    omega

end MarchDate

theorem dateOfDay_eq (days : Nat) :
    dateOfDay days = (MarchDate.ofDay (days + 719468)).calendar := by
  rw [MarchDate.calendar_eq (MarchDate.valid_ofDay _).month]
  unfold dateOfDay
  -- With the sum in place the kernel would count up to it.
  generalize days + 719468 = shifted
  rfl

structure Valid (moment : Moment) : Prop where
  since : 1970 ≤ moment.year
  month : 1 ≤ moment.month ∧ moment.month ≤ 12
  day : 1 ≤ moment.day ∧ moment.day ≤ daysInMonth moment.year moment.month
  hour : moment.hour ≤ 23
  minute : moment.minute ≤ 59
  second : moment.second ≤ 59

/-- Every day has a date, and this date has that number. -/
theorem exists_date (days : Nat) :
    ∃ date : MarchDate, date.Valid ∧ date.number = days + 719468 ∧
      dateOfDay days = date.calendar :=
  ⟨_, MarchDate.valid_ofDay _, MarchDate.number_ofDay _, dateOfDay_eq days⟩

theorem toSeconds_ofSeconds (seconds : Nat) : (ofSeconds seconds).toSeconds = seconds := by
  obtain ⟨date, valid, number, same⟩ := exists_date (seconds / 86400)
  have days := MarchDate.dayCount_calendar valid.month
  simp only [ofSeconds, toSeconds, same, dayNumber_eq, days, number, Nat.add_sub_cancel]
  omega

theorem valid_ofSeconds (seconds : Nat) : (ofSeconds seconds).Valid := by
  obtain ⟨date, valid, number, same⟩ := exists_date (seconds / 86400)
  have since := MarchDate.since_calendar valid (by omega)
  have bound := MarchDate.day_le_daysInMonth valid
  obtain ⟨inYear, first, _, _⟩ := valid
  simp only [ofSeconds, same]
  refine ⟨since, ?_, ⟨?_, bound⟩, ?_, ?_, ?_⟩
  · unfold MarchDate.calendar
    split <;> dsimp only <;> omega
  · unfold MarchDate.calendar
    split <;> exact first
  all_goals
    dsimp only
    omega

/-- The days before a month; months are counted through from January of the year 0. -/
def monthStart (index : Nat) : Nat := dayCount (index / 12) (index % 12 + 1) 1

def monthLength (index : Nat) : Nat := daysInMonth (index / 12) (index % 12 + 1)

theorem dayCount_march (year : Nat) :
    dayCount (year + 1) 3 1 = dayCount (year + 1) 2 1 + daysInMonth (year + 1) 2 := by
  have fewer : year / 100 ≤ year / 4 := Nat.div_le_div_left (by decide) (by decide)
  have hundreds : (year + 1) % 100 = 0 → (year + 1) % 4 = 0 := by omega
  have eras : (year + 1) % 400 = 0 → (year + 1) % 100 = 0 := by omega
  have byFour : (year + 1) / 4 = year / 4 + if (year + 1) % 4 = 0 then 1 else 0 := by
    split <;> omega
  have byHundred : (year + 1) / 100 = year / 100 + if (year + 1) % 100 = 0 then 1 else 0 := by
    split <;> omega
  have byEra : (year + 1) / 400 = year / 400 + if (year + 1) % 400 = 0 then 1 else 0 := by
    split <;> omega
  simp only [dayCount, daysInMonth, isLeap, byFour, byHundred, byEra, Nat.add_sub_cancel,
    Nat.reduceLeDiff, if_true, if_false]
  generalize year / 4 = fourths at *
  generalize year / 100 = centuries at *
  generalize year / 400 = repeats at *
  by_cases leap : (year + 1) % 4 = 0
  · by_cases century : (year + 1) % 100 = 0
    · by_cases era : (year + 1) % 400 = 0
      · simp [leap, century, era]
        omega
      · simp [leap, century, era]
        omega
    · have noEra : (year + 1) % 400 ≠ 0 := mt eras century
      simp [leap, century, noEra]
      omega
  · have noCentury : (year + 1) % 100 ≠ 0 := mt hundreds leap
    have noEra : (year + 1) % 400 ≠ 0 := mt eras noCentury
    simp [leap, noCentury, noEra]
    omega

theorem dayCount_january (year : Nat) :
    dayCount (year + 1) 1 1 = dayCount year 12 1 + daysInMonth year 12 := by
  have length : daysInMonth year 12 = 31 := by simp [daysInMonth]
  rw [length]
  simp only [dayCount, Nat.reduceLeDiff, if_true, if_false]
  omega

theorem dayCount_next {year month : Nat} (inYear : 1 ≤ month ∧ month ≤ 11) (other : month ≠ 2) :
    dayCount year (month + 1) 1 = dayCount year month 1 + daysInMonth year month := by
  have cases : month = 1 ∨ month = 3 ∨ month = 4 ∨ month = 5 ∨ month = 6 ∨ month = 7 ∨
      month = 8 ∨ month = 9 ∨ month = 10 ∨ month = 11 := by omega
  unfold dayCount
  rcases cases with rfl | rfl | rfl | rfl | rfl | rfl | rfl | rfl | rfl | rfl
  all_goals simp [daysInMonth]

theorem monthStart_succ {index : Nat} (since : 12 ≤ index) :
    monthStart (index + 1) = monthStart index + monthLength index := by
  unfold monthStart monthLength
  by_cases december : index % 12 = 11
  · have year : (index + 1) / 12 = index / 12 + 1 := by omega
    have january : (index + 1) % 12 = 0 := by omega
    rw [year, january, december]
    exact dayCount_january _
  · have year : (index + 1) / 12 = index / 12 := by omega
    have month : (index + 1) % 12 = index % 12 + 1 := by omega
    rw [year, month]
    by_cases february : index % 12 = 1
    · obtain ⟨before, year⟩ : ∃ before, index / 12 = before + 1 :=
        ⟨index / 12 - 1, by omega⟩
      rw [february, year]
      exact dayCount_march before
    · exact dayCount_next (by omega) (by omega)

theorem monthStart_le {earlier later : Nat} (since : 12 ≤ earlier) (before : earlier < later) :
    monthStart earlier + monthLength earlier ≤ monthStart later := by
  induction later with
  | zero => cases before
  | succ index ih =>
    rcases Nat.lt_succ_iff_lt_or_eq.mp before with before | rfl
    · have step := monthStart_succ (Nat.le_trans since (Nat.le_of_lt before))
      have known := ih before
      omega
    · exact Nat.le_of_eq (monthStart_succ since).symm

theorem dayCount_eq_monthStart (year : Nat) {month day : Nat} (inYear : 1 ≤ month ∧ month ≤ 12)
    (first : 1 ≤ day) : dayCount year month day + 1 = monthStart (12 * year + (month - 1)) + day := by
  have sameYear : (12 * year + (month - 1)) / 12 = year := by omega
  have sameMonth : (12 * year + (month - 1)) % 12 + 1 = month := by omega
  rw [monthStart, sameYear, sameMonth]
  simp only [dayCount, Nat.add_sub_cancel]
  exact Nat.sub_add_cancel (Nat.le_trans first (Nat.le_add_left _ _))

namespace Valid

variable {earlier later : Moment}

theorem dayCount_lt (one : earlier.Valid) (other : later.Valid)
    (before : 12 * earlier.year + earlier.month < 12 * later.year + later.month) :
    dayCount earlier.year earlier.month earlier.day <
      dayCount later.year later.month later.day := by
  obtain ⟨since, ⟨first, last⟩, inMonth, _⟩ := one
  obtain ⟨_, ⟨otherFirst, otherLast⟩, ⟨positive, _⟩, _⟩ := other
  have left := dayCount_eq_monthStart earlier.year ⟨first, last⟩ inMonth.1
  have right := dayCount_eq_monthStart later.year ⟨otherFirst, otherLast⟩ positive
  have sameYear : (12 * earlier.year + (earlier.month - 1)) / 12 = earlier.year := by omega
  have sameMonth : (12 * earlier.year + (earlier.month - 1)) % 12 + 1 = earlier.month := by omega
  have since : 12 ≤ 12 * earlier.year + (earlier.month - 1) := by omega
  have ordered : 12 * earlier.year + (earlier.month - 1) <
      12 * later.year + (later.month - 1) := by omega
  have months := monthStart_le since ordered
  rw [monthLength, sameYear, sameMonth] at months
  omega

theorem epoch_le_dayCount (valid : later.Valid) :
    719468 ≤ dayCount later.year later.month later.day := by
  have epoch : monthStart (12 * 1970) = 719468 := by decide
  have start := dayCount_eq_monthStart later.year valid.month valid.day.1
  have since := valid.since
  have first := valid.day.1
  rcases Nat.eq_or_lt_of_le (show 12 * 1970 ≤ 12 * later.year + (later.month - 1) by omega)
    with same | before
  · rw [← same] at start
    omega
  · have ordered := monthStart_le (by decide) before
    omega

theorem toSeconds_lt_of_dayCount (one : earlier.Valid)
    (before : dayCount earlier.year earlier.month earlier.day <
      dayCount later.year later.month later.day) : earlier.toSeconds < later.toSeconds := by
  have epoch := one.epoch_le_dayCount
  obtain ⟨_, _, _, hour, minute, second⟩ := one
  unfold toSeconds
  rw [dayNumber_eq, dayNumber_eq]
  omega

theorem toSeconds_lt_of_year (one : earlier.Valid) (other : later.Valid)
    (before : earlier.year < later.year) : earlier.toSeconds < later.toSeconds := by
  have first := other.month.1
  have last := one.month.2
  exact one.toSeconds_lt_of_dayCount (one.dayCount_lt other (by omega))

theorem toSeconds_lt_of_month (one : earlier.Valid) (other : later.Valid)
    (year : earlier.year = later.year) (before : earlier.month < later.month) :
    earlier.toSeconds < later.toSeconds :=
  one.toSeconds_lt_of_dayCount (one.dayCount_lt other (by omega))

theorem toSeconds_lt_of_day (one : earlier.Valid)
    (year : earlier.year = later.year) (month : earlier.month = later.month)
    (before : earlier.day < later.day) : earlier.toSeconds < later.toSeconds := by
  have first := one.day.1
  have left := dayCount_eq_monthStart earlier.year one.month first
  have right := dayCount_eq_monthStart earlier.year one.month
    (Nat.le_trans first (Nat.le_of_lt before))
  apply one.toSeconds_lt_of_dayCount
  rw [← year, ← month]
  omega

section

variable (one : earlier.Valid) (year : earlier.year = later.year)
  (month : earlier.month = later.month) (day : earlier.day = later.day)

include one year month day

theorem toSeconds_lt_of_hour (before : earlier.hour < later.hour) :
    earlier.toSeconds < later.toSeconds := by
  have minute := one.minute
  have second := one.second
  unfold toSeconds
  rw [year, month, day]
  omega

theorem toSeconds_lt_of_minute (hour : earlier.hour = later.hour)
    (before : earlier.minute < later.minute) : earlier.toSeconds < later.toSeconds := by
  have second := one.second
  unfold toSeconds
  rw [year, month, day, hour]
  omega

omit one in
theorem toSeconds_lt_of_second (hour : earlier.hour = later.hour)
    (minute : earlier.minute = later.minute) (before : earlier.second < later.second) :
    earlier.toSeconds < later.toSeconds := by
  unfold toSeconds
  rw [year, month, day, hour, minute]
  omega

end

end Valid

end PriceRelay.Moment
