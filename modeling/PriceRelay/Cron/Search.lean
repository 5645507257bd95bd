import PriceRelay.Cron.Schedule
/-!
Looking for the neighbouring moments of a schedule. Both searches walk the units from the years down
and keep to the starting moment's month, day and time for as long as they stand on its path. They
stand on it in the first year they try, even where that is not the starting moment's year.
-/

namespace PriceRelay.Cron.Schedule

/-- Values paired with whether they keep the search on the path of its starting moment. -/
abbrev Steps := List (Nat × Bool)

/-- The values from `start` on, if on the path; all of them, if not. -/
def upward (values : List Nat) (onPath : Bool) (start : Nat) : Steps :=
  if onPath then (values.filter (start ≤ ·)).map fun value => (value, value = start)
  else values.map fun value => (value, false)

/-- The values from `start` back, if on the path; all of them, if not. -/
def downward (values : List Nat) (onPath : Bool) (start : Nat) : Steps :=
  let values := values.reverse
  if onPath then (values.filter (· ≤ start)).map fun value => (value, value = start)
  else values.map fun value => (value, false)

/-- The first value tried stands on the path. -/
def firstOnPath (values : List Nat) : Steps :=
  match values with
  | [] => []
  | value :: rest => (value, true) :: rest.map fun value => (value, false)

/-- The first time of day, by hours, minutes and seconds in the order of `walk`. -/
def timeOfDay? (schedule : Schedule) (walk : List Nat → Bool → Nat → Steps) (start : Moment)
    (onPath : Bool) : Option (Nat × Nat × Nat) :=
  (walk schedule.hours onPath start.hour).findSome? fun (hour, onPath) =>
    (walk schedule.minutes onPath start.minute).findSome? fun (minute, onPath) =>
      (walk schedule.seconds onPath start.second).head?.map fun (second, _) =>
        (hour, minute, second)

/-- The first moment of some steps of days. -/
def onDays? (schedule : Schedule) (walk : List Nat → Bool → Nat → Steps) (start : Moment)
    (year month : Nat) (days : Steps) : Option Moment :=
  days.findSome? fun (day, onPath) =>
    if schedule.weekdays.contains (Moment.weekday year month day) then
      (schedule.timeOfDay? walk start onPath).map fun (hour, minute, second) =>
        ⟨year, month, day, hour, minute, second⟩
    else none

/-- The days of a month from the starting day on. A month that ends before the starting day is
entered on its last day. -/
def daysUpward (schedule : Schedule) (year month : Nat) (onPath : Bool) (start : Nat) : Steps :=
  let length := Moment.daysInMonth year month
  let days := schedule.days.filter (· ≤ length)
  if onPath && length < start then
    (days.filter (length ≤ ·)).map fun day => (day, schedule.days.contains start)
  else upward days onPath start

/-- The days of a month back from the starting day. -/
def daysDownward (schedule : Schedule) (year month : Nat) (onPath : Bool) (start : Nat) : Steps :=
  let length := Moment.daysInMonth year month
  if onPath && schedule.days.contains start && length < start then
    firstOnPath (schedule.days.filter (· ≤ length)).reverse
  else downward (schedule.days.filter (· ≤ length)) onPath start

/-- The first moment from `start` on. -/
def firstFrom? (schedule : Schedule) (start : Moment) : Option Moment :=
  (firstOnPath (schedule.years.filter (start.year ≤ ·))).findSome? fun (year, onPath) =>
    (upward schedule.months onPath start.month).findSome? fun (month, onPath) =>
      schedule.onDays? upward start year month (schedule.daysUpward year month onPath start.day)

/-- The last moment up to `start`. -/
def lastUpTo? (schedule : Schedule) (start : Moment) : Option Moment :=
  (firstOnPath (schedule.years.filter (· ≤ start.year)).reverse).findSome? fun (year, onPath) =>
    (downward schedule.months onPath start.month).findSome? fun (month, onPath) =>
      schedule.onDays? downward start year month (schedule.daysDownward year month onPath start.day)

/-- The first moment after an instant in milliseconds: from the next whole second on. -/
def nextAfter? (schedule : Schedule) (instant : Nat) : Option Moment :=
  schedule.firstFrom? (Moment.ofSeconds (instant / 1000 + 1))

/-- The last moment before an instant in milliseconds: up to one second before its whole second. -/
def lastBefore? (schedule : Schedule) (instant : Nat) : Option Moment :=
  if instant < 1000 then none
  else schedule.lastUpTo? (Moment.ofSeconds (instant / 1000 - 1))

end PriceRelay.Cron.Schedule
