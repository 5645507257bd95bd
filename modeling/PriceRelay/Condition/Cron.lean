import PriceRelay.Condition.Check
import PriceRelay.Cron.Search
import PriceRelay.Text.Space
/-!
Scheduled updates: a feed is due once one of its schedules has fired since the last update. A backup
looks at its schedules with its offset's delay.
-/

namespace PriceRelay

/-- Why an expression is no schedule. -/
inductive CronError where
  | fieldCount (count : Nat)
  | malformed
  deriving DecidableEq, Repr

def CronError.message : CronError → String
  | .fieldCount count => s!"expected 5 to 7 fields, got {count}"
  | .malformed => "Invalid expression: Invalid cron expression."

/-- A schedule with the expression it was read from. -/
structure CronSchedule where
  expression : String
  schedule : Cron.Schedule
  deriving DecidableEq, Repr

namespace CronSchedule

/-- The number of words: of characters that are no space and follow none but a space. -/
def wordCount (chars : List Char) : Nat :=
  go true chars
where
  go : Bool → List Char → Nat
    | _, [] => 0
    | afterSpace, c :: rest =>
      if Text.isSpace c then go true rest
      else (if afterSpace then 1 else 0) + go false rest

def trim (chars : List Char) : List Char :=
  ((chars.dropWhile Text.isSpace).reverse.dropWhile Text.isSpace).reverse

/-- Five fields have a precision of minutes; six or seven begin with seconds. -/
def read (expression : String) : Except CronError CronSchedule :=
  let chars := expression.toList
  let count := wordCount chars
  if count < 5 || 7 < count then .error (.fieldCount count)
  else
    let chars := if count = 5 then '0' :: ' ' :: trim chars else trim chars
    match Cron.Schedule.read? chars with
    | some schedule => .ok ⟨expression, schedule⟩
    | none => .error .malformed

end CronSchedule

namespace Condition

/-- The end of the calendar that instants are read in. -/
def calendarEnd : Millis := 8210266876800000

/-- An instant of the calendar; one beyond it is read as the epoch. -/
def calendarInstant (instant : Millis) : Millis := if instant < calendarEnd then instant else 0

/-- The moment at which a schedule last fired before `now` with the offset's delay, if that is after
the last update. -/
def cronDue? (schedule : Cron.Schedule) (last now offset : Millis) : Option Moment :=
  (schedule.lastBefore? (calendarInstant (now - offset))).filter fun moment =>
    calendarInstant last < moment.toSeconds * 1000

def cronDue (schedules : List CronSchedule) (last now offset : Millis) : Bool :=
  schedules.any fun schedule => (cronDue? schedule.schedule last now offset).isSome

private def cronMessage (schedule : CronSchedule) (last now offset : Millis) : String :=
  let lastText := Moment.textOfMillis (calendarInstant last)
  let next := match schedule.schedule.nextAfter? (calendarInstant (now - offset)) with
    | some moment => moment.rfc3339
    | none => "never"
  match cronDue? schedule.schedule last now offset with
  | some moment =>
    s!"Cron '{schedule.expression}': scheduled update at {moment.rfc3339} is due "
      ++ s!"(last update at {lastText}, next at {next})"
  | none =>
    s!"Cron '{schedule.expression}': no scheduled update due since {lastText} (next at {next})"

def cron (schedules : List CronSchedule) (last now offset : Millis) : Check :=
  { fires := cronDue schedules last now offset
    messages := schedules.map fun schedule => cronMessage schedule last now offset }

end Condition

end PriceRelay
