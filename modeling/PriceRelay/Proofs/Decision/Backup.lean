import PriceRelay.Proofs.Condition.Cron
import PriceRelay.Proofs.Decision.Written
/-!
A backup relayer beside the main one. Every condition of a backup that holds also holds without its
offset, but for schedules: the search for their last moment goes back too far once it starts after
the last year of a schedule.
-/

namespace PriceRelay

namespace Condition

theorem timeDue_zero {heartbeat last now offset : Millis}
    (passed : timeDue heartbeat last now offset = true) : timeDue heartbeat last now 0 = true := by
  unfold timeDue at passed ⊢
  rw [decide_eq_true_eq] at passed ⊢
  have sooner : Millis.plus heartbeat 0 ≤ Millis.plus heartbeat offset := by
    have added : heartbeat + 0 ≤ heartbeat + offset := Nat.add_le_add_left (Nat.zero_le _) _
    exact Nat.le_min.mpr ⟨Nat.le_trans (Nat.min_le_left _ _) added, Nat.min_le_right _ _⟩
  exact Nat.le_trans sooner passed

/-- A schedule that fired for a backup fired for the main relayer, if its years reach the present. -/
theorem cronDue?_zero {schedule : Cron.Schedule} (wellFormed : schedule.WellFormed)
    {last now offset : Millis} (inCalendar : now < calendarEnd)
    (reaches : schedule.Reaches (Cron.Schedule.searchStart now))
    (due : (cronDue? schedule last now offset).isSome = true) :
    (cronDue? schedule last now 0).isSome = true := by
  obtain ⟨moment, kept⟩ := Option.isSome_iff_exists.mp due
  obtain ⟨found, later⟩ := Option.filter_eq_some_iff.mp kept
  have start : calendarInstant (now - 0) = now := if_pos inCalendar
  have delayed : calendarInstant (now - offset) = now - offset :=
    if_pos (Nat.lt_of_le_of_lt (Nat.sub_le now offset) inCalendar)
  have earlier : calendarInstant (now - offset) ≤ calendarInstant (now - 0) := by
    rw [start, delayed]
    exact Nat.sub_le now offset
  rw [← start] at reaches
  obtain ⟨other, searched, ordered⟩ :=
    Cron.Schedule.lastBefore?_mono wellFormed earlier reaches found
  rw [decide_eq_true_eq] at later
  rw [Option.isSome_iff_exists]
  refine ⟨other, Option.filter_eq_some_iff.mpr ⟨searched, ?_⟩⟩
  rw [decide_eq_true_eq]
  exact Nat.lt_of_lt_of_le later (Nat.mul_le_mul_right 1000 ordered)

end Condition

namespace Engine

/-- The main relayer of a backup. -/
def primary (engine : Engine) : Engine :=
  { engine with fallback := { engine.fallback with offset := 0 } }

section

variable {engine : Engine} {context : IterationContext}

theorem primary_deviationDue {feed : FeedId} {threshold : Float} {snapshot : Snapshot}
    (due : engine.DeviationDue context feed threshold snapshot) :
    engine.primary.DeviationDue context feed threshold snapshot := by
  refine ⟨due.latest, ?_, ?_⟩
  · intro active
    simp [primary, Fallback.isActive] at active
  · simp [primary, Condition.tooFrequent, Fallback.isActive]

def SchedulesReach (engine : Engine) (context : IterationContext) : Prop :=
  ∀ trigger ∈ engine.triggers.triggers, ∀ schedule ∈ trigger.schedules,
    schedule.schedule.Reaches (Cron.Schedule.searchStart context.now)

theorem primary_counterpart {trigger : Trigger} (noThreshold : engine.optimization.threshold? = none)
    (inCalendar : context.now < Condition.calendarEnd)
    (reads : ∀ schedule ∈ trigger.schedules, CronSchedule.read schedule.expression = .ok schedule)
    (reaches : ∀ schedule ∈ trigger.schedules,
      schedule.schedule.Reaches (Cron.Schedule.searchStart context.now)) :
    engine.Counterpart engine.primary context trigger trigger where
  feed := rfl
  heartbeat := fun _ configured => configured
  heartbeatDue := fun _ _ due => ⟨due.configured, Condition.timeDue_zero due.passed⟩
  scheduleDue := by
    intro snapshot due
    obtain ⟨schedule, member, fired⟩ := List.any_eq_true.mp due
    apply List.any_eq_true.mpr
    refine ⟨schedule, member, ?_⟩
    exact Condition.cronDue?_zero (CronSchedule.wellFormed_of_read (reads schedule member))
      inCalendar (reaches schedule member) fired
  deviationDue := fun _ _ configured due => ⟨configured, primary_deviationDue due⟩
  ratio := by
    intro limited
    simp [noThreshold] at limited

end

/-- Without a threshold for ratios, and with schedules whose years reach the present, a backup
writes no feed that the main relayer would not write, and has no deadline that it has not. -/
theorem evaluate_backup_subset (engine : Engine) (context : IterationContext)
    (distinct : engine.triggers.feeds.Nodup) (noThreshold : engine.optimization.threshold? = none)
    (inCalendar : context.now < Condition.calendarEnd)
    (reads : ∀ trigger ∈ engine.triggers.triggers, ∀ schedule ∈ trigger.schedules,
      CronSchedule.read schedule.expression = .ok schedule)
    (reaches : engine.SchedulesReach context) :
    (∀ feed ∈ (engine.evaluate context).1.feeds,
      feed ∈ (engine.primary.evaluate context).1.feeds) ∧
    ((engine.evaluate context).1.hardDeadline = true →
      (engine.primary.evaluate context).1.hardDeadline = true) := by
  have larger : engine.Extends engine.primary context := by
    refine ⟨rfl, fun trigger configured => ⟨trigger, configured, ?_⟩⟩
    exact primary_counterpart noThreshold inCalendar (reads trigger configured)
      (reaches trigger configured)
  constructor
  · intro feed written
    have same : engine.primary.triggers.feeds.Nodup := distinct
    rw [mem_evaluate_iff distinct] at written
    rw [mem_evaluate_iff same]
    exact written.mono larger
  · exact larger.hardDeadline

def hourly (expression : String) (years : List Nat) : Trigger where
  feed := "ETH"
  schedules := [⟨expression, {
    seconds := [0], minutes := [0], hours := List.range' 0 24, days := List.range' 1 31
    months := List.range' 1 12, weekdays := List.range' 1 7, years }⟩]

def hourLater (trigger : Trigger) : Engine where
  triggers := ⟨[trigger], none⟩
  fallback := { offset := 3600000 }

/-- Half past midnight of the first of January 2024, two hours after the last update. -/
def newYear : IterationContext where
  block := 1
  now := 1704069000000
  contract := FeedMap.ofList [("ETH", ⟨1000, 1704061800000, 1⟩)]
  packages := FeedMap.ofList [("ETH", [⟨"ETH", 2000, FixedBytes.ofNat 20 1,
    [{ feed := "ETH", value := 1.0 }], []⟩])]

theorem hourLater_written {trigger : Trigger} (feed : trigger.feed = "ETH")
    (fired : Condition.cronDue trigger.schedules 1704061800000 newYear.now 3600000 = true) :
    "ETH" ∈ ((hourLater trigger).evaluate newYear).1.feeds := by
  have fresh : newYear.Fresh trigger.feed ⟨1000, 1704061800000, 1⟩ := by
    rw [feed]
    exact ⟨by decide, by decide, by decide⟩
  have fires : (hourLater trigger).Fires newYear trigger ⟨1000, 1704061800000, 1⟩ :=
    .deadline (.schedule fired)
  have written := firing_written (List.mem_singleton_self trigger) fresh fires
  rw [feed] at written
  exact written

/-- Where the schedule goes on in the new year, the main relayer writes the feed too. -/
theorem evaluate_backup_subset_hourly :
    let engine := hourLater (hourly "0 0 * * * * 2023-2024" [2023, 2024])
    engine.triggers.feeds.Nodup ∧ engine.optimization.threshold? = none ∧
      newYear.now < Condition.calendarEnd ∧ engine.SchedulesReach newYear ∧
      "ETH" ∈ (engine.evaluate newYear).1.feeds ∧
      "ETH" ∈ (engine.primary.evaluate newYear).1.feeds := by
  intro engine
  have distinct : engine.triggers.feeds.Nodup := by simp [engine, hourLater, TriggerSet.feeds]
  have inCalendar : newYear.now < Condition.calendarEnd := by decide
  have reads : ∀ trigger ∈ engine.triggers.triggers, ∀ schedule ∈ trigger.schedules,
      CronSchedule.read schedule.expression = .ok schedule := by
    intro trigger configured schedule member
    obtain rfl := List.mem_singleton.mp configured
    obtain rfl := List.mem_singleton.mp member
    rfl
  have reaches : engine.SchedulesReach newYear := by
    intro trigger configured schedule member
    obtain rfl := List.mem_singleton.mp configured
    obtain rfl := List.mem_singleton.mp member
    exact .inl (by decide)
  have written : "ETH" ∈ (engine.evaluate newYear).1.feeds := hourLater_written rfl (by decide)
  obtain ⟨subset, _⟩ := evaluate_backup_subset engine newYear distinct rfl inCalendar reads reaches
  exact ⟨distinct, rfl, inCalendar, reaches, written, subset "ETH" written⟩

/-- With the schedule at its end the backup writes a feed that the main relayer does not: in the new
year its search for the last slot begins at the first of January of the old one. -/
theorem evaluate_backup_not_subset :
    ¬ ∀ (engine : Engine) (context : IterationContext), engine.triggers.feeds.Nodup →
      engine.optimization.threshold? = none → context.now < Condition.calendarEnd →
      (∀ trigger ∈ engine.triggers.triggers, ∀ schedule ∈ trigger.schedules,
        CronSchedule.read schedule.expression = .ok schedule) →
      0 < engine.fallback.offset →
      (∀ feed ∈ (engine.evaluate context).1.feeds,
        feed ∈ (engine.primary.evaluate context).1.feeds) ∧
      ((engine.evaluate context).1.hardDeadline = true →
        (engine.primary.evaluate context).1.hardDeadline = true) := by
  intro claim
  let engine := hourLater (hourly "0 0 * * * * 2023" [2023])
  have distinct : engine.triggers.feeds.Nodup := by simp [engine, hourLater, TriggerSet.feeds]
  have reads : ∀ trigger ∈ engine.triggers.triggers, ∀ schedule ∈ trigger.schedules,
      CronSchedule.read schedule.expression = .ok schedule := by
    intro trigger configured schedule member
    obtain rfl := List.mem_singleton.mp configured
    obtain rfl := List.mem_singleton.mp member
    rfl
  have written : "ETH" ∈ (engine.evaluate newYear).1.feeds := hourLater_written rfl (by decide)
  obtain ⟨subset, _⟩ := claim engine newYear distinct rfl (by decide) reads (by decide)
  have same : engine.primary.triggers.feeds.Nodup := distinct
  have reason := (mem_evaluate_iff same).mp (subset "ETH" written)
  obtain ⟨trigger, configured, snapshot, fresh, fires⟩ := reason.updates
  obtain rfl := List.mem_singleton.mp configured
  have stored : newYear.contract.find? "ETH" = some ⟨1000, 1704061800000, 1⟩ := by decide
  obtain rfl := Option.some.inj (fresh.stored.symm.trans stored)
  cases fires with
  | deadline due =>
    cases due with
    | heartbeat interval configured => cases configured
    | schedule fired => exact absurd fired (by decide)
  | deviation threshold configured => cases configured

end Engine

end PriceRelay
