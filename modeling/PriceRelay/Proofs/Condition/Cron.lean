import PriceRelay.Condition.Cron
import PriceRelay.Proofs.Cron.Search
/-!
When a feed is due by its schedules. The search goes back from one second before the second that has
begun, so what fired in the second that has begun is not seen before the next one.
-/

namespace PriceRelay

namespace Cron.Schedule

variable {schedule : Schedule}

/-- What is found before an instant is the last moment of the schedule before the second that has
begun. -/
theorem latest_lastBefore (wellFormed : schedule.WellFormed) (instant : Millis)
    (reaches : schedule.Reaches (searchStart instant)) :
    Latest (fun moment => schedule.fires moment = true ∧ moment.toSeconds < instant / 1000)
      (schedule.lastBefore? instant) := by
  unfold lastBefore?
  split
  case isTrue early =>
    intro moment ⟨_, before⟩
    omega
  case isFalse known =>
    refine (latest_lastUpTo wellFormed (Moment.valid_ofSeconds _) reaches).congr fun moment => ?_
    rw [Moment.toSeconds_ofSeconds]
    exact and_congr_right fun _ => by omega

theorem fires_of_lastBefore? (wellFormed : schedule.WellFormed) {instant : Millis} {moment : Moment}
    (found : schedule.lastBefore? instant = some moment) :
    schedule.fires moment = true ∧ moment.toSeconds < instant / 1000 := by
  unfold lastBefore? at found
  split at found
  case isTrue => cases found
  case isFalse known =>
    have within := lastUpTo?_le wellFormed (Moment.valid_ofSeconds _) found
    rw [Moment.toSeconds_ofSeconds] at within
    exact ⟨(fires_of_lastUpTo? found).1, by omega⟩

end Cron.Schedule

namespace CronSchedule

theorem wellFormed_of_read {expression : String} {schedule : CronSchedule}
    (reads : CronSchedule.read expression = .ok schedule) : schedule.schedule.WellFormed := by
  unfold CronSchedule.read at reads
  dsimp only at reads
  split at reads
  · cases reads
  · split at reads
    · rename_i found
      cases reads
      exact Cron.Schedule.wellFormed_of_read? found
    · cases reads

def FiresBetween (schedule : CronSchedule) (earlier later : Millis) : Prop :=
  ∃ moment, schedule.schedule.fires moment = true ∧ earlier < moment.toSeconds * 1000 ∧
    moment.toSeconds * 1000 < later

/-- The schedule fires in the second that has begun, before the instant. -/
def FiresSince (schedule : CronSchedule) (instant : Millis) : Prop :=
  ∃ moment, schedule.schedule.fires moment = true ∧ moment.toSeconds = instant / 1000 ∧
    moment.toSeconds * 1000 < instant

end CronSchedule

namespace Condition

/-- The second that has begun, in milliseconds. -/
def wholeSecond (instant : Millis) : Millis := instant / 1000 * 1000

theorem lt_wholeSecond_iff {seconds : Nat} {instant : Millis} :
    seconds * 1000 < wholeSecond instant ↔ seconds < instant / 1000 := by
  unfold wholeSecond
  omega

variable {schedules : List CronSchedule} {last now offset : Millis}

theorem cronDue?_eq_some_iff {schedule : Cron.Schedule} {moment : Moment}
    (lastKnown : last < calendarEnd) (nowKnown : now - offset < calendarEnd) :
    cronDue? schedule last now offset = some moment ↔
      schedule.lastBefore? (now - offset) = some moment ∧ last < moment.toSeconds * 1000 := by
  unfold cronDue? calendarInstant
  rw [if_pos nowKnown, if_pos lastKnown, Option.filter_eq_some_iff, decide_eq_true_eq]

section

variable {schedule : CronSchedule} (wellFormed : schedule.schedule.WellFormed)
  (lastKnown : last < calendarEnd) (nowKnown : now - offset < calendarEnd)

include wellFormed lastKnown nowKnown

/-- A schedule that is due fired since the last update. -/
theorem firesBetween_of_cronDue? (due : (cronDue? schedule.schedule last now offset).isSome = true) :
    schedule.FiresBetween last (wholeSecond (now - offset)) := by
  obtain ⟨moment, kept⟩ := Option.isSome_iff_exists.mp due
  obtain ⟨found, later⟩ := (cronDue?_eq_some_iff lastKnown nowKnown).mp kept
  obtain ⟨fires, before⟩ := Cron.Schedule.fires_of_lastBefore? wellFormed found
  exact ⟨moment, fires, later, lt_wholeSecond_iff.mpr before⟩

/-- Where its years reach the start of the search, a schedule is due exactly if it fired since the
last update and before the second that has begun. -/
theorem cronDue?_iff
    (reaches : schedule.schedule.Reaches (Cron.Schedule.searchStart (now - offset))) :
    (cronDue? schedule.schedule last now offset).isSome = true ↔
      schedule.FiresBetween last (wholeSecond (now - offset)) := by
  constructor
  · exact firesBetween_of_cronDue? wellFormed lastKnown nowKnown
  · rintro ⟨moment, fires, after, before⟩
    have latest := Cron.Schedule.latest_lastBefore wellFormed (now - offset) reaches
    have within := lt_wholeSecond_iff.mp before
    cases searched : schedule.schedule.lastBefore? (now - offset) with
    | none =>
      rw [searched] at latest
      exact absurd ⟨fires, within⟩ (latest moment)
    | some found =>
      rw [searched] at latest
      have ordered := latest.2 moment ⟨fires, within⟩
      have later := Nat.lt_of_lt_of_le after (Nat.mul_le_mul_right 1000 ordered)
      exact Option.isSome_iff_exists.mpr
        ⟨found, (cronDue?_eq_some_iff lastKnown nowKnown).mpr ⟨searched, later⟩⟩

end

/-- Nothing is missed where no schedule has fired in the second that has begun. -/
theorem firesBetween_iff_wholeSecond {schedule : CronSchedule} {instant : Millis}
    (quiet : ¬schedule.FiresSince instant) :
    schedule.FiresBetween last (wholeSecond instant) ↔ schedule.FiresBetween last instant := by
  unfold wholeSecond
  constructor
  · rintro ⟨moment, fires, after, before⟩
    exact ⟨moment, fires, after, by omega⟩
  · rintro ⟨moment, fires, after, before⟩
    have other : moment.toSeconds ≠ instant / 1000 :=
      fun same => quiet ⟨moment, fires, same, before⟩
    exact ⟨moment, fires, after, by omega⟩

/-- Feeds are due by their schedules exactly where one of these fired after the last update and
before the second that has begun: the last moment of a schedule is looked for up to there. That is
the same as before the instant itself where no schedule fired in that second. Whatever the years of
the schedules, no feed is due without a reason. -/
theorem cron_fires_iff (schedules : List CronSchedule) (last now offset : Millis)
    (reads : ∀ schedule ∈ schedules, CronSchedule.read schedule.expression = .ok schedule)
    (lastKnown : last < calendarEnd) (nowKnown : now - offset < calendarEnd) :
    let present := now - offset
    ((cron schedules last now offset).fires = true →
      ∃ schedule ∈ schedules, schedule.FiresBetween last present) ∧
    ((∀ schedule ∈ schedules, schedule.schedule.Reaches (Cron.Schedule.searchStart present)) →
      (∀ schedule ∈ schedules, Cron.Schedule.Latest
        (fun moment => schedule.schedule.fires moment = true ∧
          moment.toSeconds * 1000 < wholeSecond present) (schedule.schedule.lastBefore? present)) ∧
      ((cron schedules last now offset).fires = true ↔
        ∃ schedule ∈ schedules, schedule.FiresBetween last (wholeSecond present)) ∧
      ((∀ schedule ∈ schedules, ¬schedule.FiresSince present) →
        ((cron schedules last now offset).fires = true ↔
          ∃ schedule ∈ schedules, schedule.FiresBetween last present))) := by
  intro present
  have wellFormed : ∀ schedule ∈ schedules, schedule.schedule.WellFormed :=
    fun schedule member => CronSchedule.wellFormed_of_read (reads schedule member)
  have fires_iff : (cron schedules last now offset).fires = true ↔ ∃ schedule ∈ schedules,
      (cronDue? schedule.schedule last now offset).isSome = true := List.any_eq_true
  refine ⟨fun due => ?_, fun reaches => ?_⟩
  · obtain ⟨schedule, member, due⟩ := fires_iff.mp due
    obtain ⟨moment, fires, after, before⟩ :=
      firesBetween_of_cronDue? (wellFormed schedule member) lastKnown nowKnown due
    exact ⟨schedule, member, moment, fires, after,
      Nat.lt_of_lt_of_le before (Nat.div_mul_le_self _ _)⟩
  have exact_iff : (cron schedules last now offset).fires = true ↔
      ∃ schedule ∈ schedules, schedule.FiresBetween last (wholeSecond present) := by
    rw [fires_iff]
    refine exists_congr fun schedule => and_congr_right fun member => ?_
    exact cronDue?_iff (wellFormed schedule member) lastKnown nowKnown (reaches schedule member)
  refine ⟨fun schedule member => ?_, exact_iff, fun quiet => ?_⟩
  · refine (Cron.Schedule.latest_lastBefore (wellFormed schedule member) present
      (reaches schedule member)).congr fun moment => and_congr_right fun _ => ?_
    exact lt_wholeSecond_iff.symm
  · rw [exact_iff]
    refine exists_congr fun schedule => and_congr_right fun member => ?_
    exact firesBetween_iff_wholeSecond (quiet schedule member)

def everyHour : CronSchedule where
  expression := "0 * * * *"
  schedule :=
    { seconds := [0], minutes := [0], hours := List.range' 0 24, days := List.range' 1 31
      months := List.range' 1 12, weekdays := List.range' 1 7, years := List.range' 1970 131 }

theorem everyHour_reads : CronSchedule.read everyHour.expression = .ok everyHour := rfl

/-- One second past ten a feed is due that was updated at half past nine. -/
theorem cron_fires_iff_pastTen :
    CronSchedule.read everyHour.expression = .ok everyHour ∧
      everyHour.schedule.Reaches (Cron.Schedule.searchStart 1704103201000) ∧
      ¬everyHour.FiresSince 1704103201000 ∧
      (cron [everyHour] 1704101400000 1704103201000 0).fires = true ∧
      ∃ schedule ∈ [everyHour], schedule.FiresBetween 1704101400000 1704103201000 := by
  have reaches : everyHour.schedule.Reaches (Cron.Schedule.searchStart 1704103201000) :=
    .inl (by decide +kernel)
  have quiet : ¬everyHour.FiresSince 1704103201000 := by
    rintro ⟨moment, _, same, before⟩
    omega
  have due : (cron [everyHour] 1704101400000 1704103201000 0).fires = true := by decide +kernel
  obtain ⟨_, precise⟩ := cron_fires_iff [everyHour] 1704101400000 1704103201000 0
    (by simpa using everyHour_reads) (by decide) (by decide)
  obtain ⟨_, _, fires_iff⟩ := precise (by simpa using reaches)
  exact ⟨everyHour_reads, reaches, quiet, due, (fires_iff (by simpa using quiet)).mp due⟩

/-- In the first second of the hour its slot is not seen yet: a millisecond past ten a feed that was
updated at half past nine is not due. -/
theorem cron_misses_firstSecond :
    ¬∀ (schedules : List CronSchedule) (last now offset : Millis),
      (∀ schedule ∈ schedules, CronSchedule.read schedule.expression = .ok schedule) →
      last < calendarEnd → now - offset < calendarEnd →
      (∀ schedule ∈ schedules,
        schedule.schedule.Reaches (Cron.Schedule.searchStart (now - offset))) →
      ((cron schedules last now offset).fires = true ↔
        ∃ schedule ∈ schedules, schedule.FiresBetween last (now - offset)) := by
  intro claimed
  have reaches : everyHour.schedule.Reaches (Cron.Schedule.searchStart 1704103200001) :=
    .inl (by decide +kernel)
  have fires_iff := claimed [everyHour] 1704101400000 1704103200001 0
    (by simpa using everyHour_reads) (by decide) (by decide) (by simpa using reaches)
  have between : everyHour.FiresBetween 1704101400000 1704103200001 :=
    ⟨⟨2024, 1, 1, 10, 0, 0⟩, by decide +kernel, by decide +kernel, by decide +kernel⟩
  have due := fires_iff.mpr ⟨everyHour, List.mem_singleton_self _, between⟩
  have idle : (cron [everyHour] 1704101400000 1704103200001 0).fires = false := by decide +kernel
  cases due.symm.trans idle

end Condition

end PriceRelay
