import PriceRelay.Cron.Expression
import PriceRelay.Calendar.Moment
/-!
Schedules: for each unit of the calendar the values at which the schedule fires. An expression has
seconds, minutes, hours, days of the month, months, days of the week and, if it likes, years.
-/

namespace PriceRelay.Cron

/-- A unit of the calendar: the range of its values and the names that some of them have. -/
structure CalendarUnit where
  low : Nat
  high : Nat
  names : List (String × Nat)

namespace CalendarUnit

def seconds : CalendarUnit := ⟨0, 59, []⟩
def minutes : CalendarUnit := ⟨0, 59, []⟩
def hours : CalendarUnit := ⟨0, 23, []⟩
def days : CalendarUnit := ⟨1, 31, []⟩
def years : CalendarUnit := ⟨1970, 2100, []⟩

def months : CalendarUnit := ⟨1, 12,
  [("jan", 1), ("january", 1), ("feb", 2), ("february", 2), ("mar", 3), ("march", 3), ("apr", 4),
   ("april", 4), ("may", 5), ("jun", 6), ("june", 6), ("jul", 7), ("july", 7), ("aug", 8),
   ("august", 8), ("sep", 9), ("september", 9), ("oct", 10), ("october", 10), ("nov", 11),
   ("november", 11), ("dec", 12), ("december", 12)]⟩

def weekdays : CalendarUnit := ⟨1, 7,
  [("sun", 1), ("sunday", 1), ("mon", 2), ("monday", 2), ("tue", 3), ("tues", 3), ("tuesday", 3),
   ("wed", 4), ("wednesday", 4), ("thu", 5), ("thurs", 5), ("thursday", 5), ("fri", 6),
   ("friday", 6), ("sat", 7), ("saturday", 7)]⟩

variable (unit : CalendarUnit)

/-- The values from one to another, both included. -/
private def span (first last : Nat) : List Nat := List.range' first (last + 1 - first)

def all : List Nat := span unit.low unit.high

theorem mem_all {value : Nat} : value ∈ unit.all ↔ unit.low ≤ value ∧ value ≤ unit.high := by
  unfold all span
  rw [List.mem_range'_1]
  omega

theorem pairwise_all : unit.all.Pairwise (· < ·) := List.pairwise_lt_range'

def valid? (value : Nat) : Option Nat :=
  if unit.low ≤ value && value ≤ unit.high then some value else none

/-- Names are read in any case. -/
def named? (name : String) : Option Nat := unit.names.lookup name.toLower

private def range? (first last : Nat) : Option (List Nat) := do
  let first ← unit.valid? first
  let last ← unit.valid? last
  if first ≤ last then some (span first last) else none

def ofTerm? : Term → Option (List Nat)
  | .all => some unit.all
  | .point value => (unit.valid? value).map fun value => [value]
  | .range first last => range? unit first last
  | .namedRange first last => do range? unit (← unit.named? first) (← unit.named? last)

/-- Every `step`-th value, from the first. -/
def everyNth (step : Nat) (values : List Nat) : List Nat :=
  (values.zipIdx.filter fun entry => entry.2 % step = 0).map (·.1)

def ofItem? : Item → Option (List Nat)
  | .term term => unit.ofTerm? term
  | .named name => (unit.named? name).map fun value => [value]
  | .every _ 0 => none
  | .every (.point first) step => do
    let first ← unit.valid? first
    return everyNth step (span first unit.high)
  | .every term step => do return everyNth step (← unit.ofTerm? term)

/-- The values of a field in increasing order. -/
def ofItems? (items : List Item) : Option (List Nat) := do
  let values := (← items.mapM (ofItem? unit)).flatten
  return unit.all.filter (values.contains ·)

end CalendarUnit

/-- The values at which a schedule fires, each list in increasing order. -/
structure Schedule where
  seconds : List Nat
  minutes : List Nat
  hours : List Nat
  days : List Nat
  months : List Nat
  weekdays : List Nat
  years : List Nat
  deriving DecidableEq, Repr

namespace Schedule

private def take? (unit : CalendarUnit) (marks : List Char) (chars : List Char) :
    Option (List Nat × List Char) := do
  let (items, rest) ← field? marks chars
  return (← unit.ofItems? items, rest)

/-- Read all fields. Only the day fields know the mark `?`. -/
def read? (chars : List Char) : Option Schedule := do
  let (seconds, rest) ← take? .seconds ['*'] chars
  let (minutes, rest) ← take? .minutes ['*'] rest
  let (hours, rest) ← take? .hours ['*'] rest
  let (days, rest) ← take? .days ['?', '*'] rest
  let (months, rest) ← take? .months ['*'] rest
  let (weekdays, rest) ← take? .weekdays ['?', '*'] rest
  let (years, rest) := (take? .years ['*'] rest).getD (CalendarUnit.all .years, rest)
  if rest.isEmpty then return { seconds, minutes, hours, days, months, weekdays, years } else none

/-- Each list of a schedule has values of its unit, in increasing order. -/
structure WellFormed (schedule : Schedule) : Prop where
  seconds : schedule.seconds.Sublist (CalendarUnit.all .seconds)
  minutes : schedule.minutes.Sublist (CalendarUnit.all .minutes)
  hours : schedule.hours.Sublist (CalendarUnit.all .hours)
  days : schedule.days.Sublist (CalendarUnit.all .days)
  months : schedule.months.Sublist (CalendarUnit.all .months)
  weekdays : schedule.weekdays.Sublist (CalendarUnit.all .weekdays)
  years : schedule.years.Sublist (CalendarUnit.all .years)

theorem sublist_of_take? {unit : CalendarUnit} {marks chars : List Char}
    {taken : List Nat × List Char} (took : take? unit marks chars = some taken) :
    taken.1.Sublist unit.all := by
  simp only [take?, CalendarUnit.ofItems?, Option.bind_eq_bind, Option.bind_eq_some_iff,
    Option.pure_def, Option.some.injEq] at took
  obtain ⟨_, _, _, ⟨_, _, rfl⟩, rfl⟩ := took
  exact List.filter_sublist

theorem wellFormed_of_read? {chars : List Char} {schedule : Schedule}
    (reads : read? chars = some schedule) : schedule.WellFormed := by
  simp only [read?, Option.bind_eq_bind, Option.bind_eq_some_iff] at reads
  obtain ⟨seconds, first, minutes, second, hours, third, days, fourth, months, fifth, weekdays,
    sixth, last⟩ := reads
  have years : ((take? .years ['*'] weekdays.2).getD (CalendarUnit.all .years, weekdays.2)).1.Sublist
      (CalendarUnit.all .years) := by
    cases seventh : take? .years ['*'] weekdays.2 with
    | none => exact List.Sublist.refl _
    | some taken => exact sublist_of_take? seventh
  split at last
  · cases last
    exact ⟨sublist_of_take? first, sublist_of_take? second, sublist_of_take? third,
      sublist_of_take? fourth, sublist_of_take? fifth, sublist_of_take? sixth, years⟩
  · cases last

/-- Does the schedule fire at this moment? -/
def fires (schedule : Schedule) (moment : Moment) : Bool :=
  schedule.years.contains moment.year && schedule.months.contains moment.month
    && schedule.days.contains moment.day
    && moment.day ≤ Moment.daysInMonth moment.year moment.month
    && schedule.weekdays.contains (Moment.weekday moment.year moment.month moment.day)
    && schedule.hours.contains moment.hour && schedule.minutes.contains moment.minute
    && schedule.seconds.contains moment.second

end Schedule

end PriceRelay.Cron
