import PriceRelay.Decision.Engine
import PriceRelay.Proofs.Packages.Needed
/-!
What makes a feed eligible and due, said without the review of the engine: fresh packages, a
heartbeat, a schedule, a deviation. The review of a trigger agrees with it.
-/

namespace PriceRelay

def PastPackages.answer (past : PastPackages) : Option PackageSet :=
  past.kept?.getD past.source?.join

@[simp] theorem PastPackages.get_fst (past : PastPackages) : past.get.1 = past.answer := by
  unfold get answer
  split
  · rename_i packages kept
    simp [kept]
  · rename_i kept
    simp [kept]

@[simp] theorem PastPackages.answer_get (past : PastPackages) :
    past.get.2.answer = past.answer := by
  unfold get answer
  split
  · rfl
  · rename_i kept
    simp [kept]

/-- A feed has packages and a stored state, and all its packages are newer than that state. -/
structure IterationContext.Fresh (context : IterationContext) (feed : FeedId)
    (snapshot : Snapshot) : Prop where
  served : context.packages.listed feed ≠ []
  stored : context.contract.find? feed = some snapshot
  newer : ∀ package ∈ context.packages.listed feed, snapshot.dataTimestamp < package.timestamp

theorem IterationContext.Fresh.unique {context : IterationContext} {feed : FeedId}
    {first second : Snapshot} (left : context.Fresh feed first) (right : context.Fresh feed second) :
    first = second :=
  Option.some.inj (left.stored.symm.trans right.stored)

namespace Engine

/-- The heartbeat of a trigger has passed, or one of its schedules has fired. -/
inductive DeadlineDue (engine : Engine) (context : IterationContext) (trigger : Trigger)
    (snapshot : Snapshot) : Prop where
  | heartbeat (interval : Millis)
      (configured : engine.triggers.heartbeat? trigger context.now = some interval)
      (passed : Condition.timeDue interval snapshot.blockTimestamp context.now
        engine.fallback.offset = true)
  | schedule (fired : Condition.cronDue trigger.schedules snapshot.blockTimestamp context.now
        engine.fallback.offset = true)

/-- The latest packages deviate enough, and for a backup the past ones too. -/
structure DeviationDue (engine : Engine) (context : IterationContext) (feed : FeedId)
    (threshold : Float) (snapshot : Snapshot) : Prop where
  latest : (Condition.deviation feed context.packages snapshot.value threshold).fires = true
  past : engine.fallback.isActive = true → ∃ packages, context.past.answer = some packages ∧
    (Condition.deviation feed packages snapshot.value threshold).fires = true
  seldom : Condition.tooFrequent engine.fallback snapshot.blockTimestamp context.now = false

/-- Some condition of a trigger asks for an update. -/
inductive Fires (engine : Engine) (context : IterationContext) (trigger : Trigger)
    (snapshot : Snapshot) : Prop where
  | deadline (due : engine.DeadlineDue context trigger snapshot)
  | deviation (threshold : Float) (configured : trigger.deviation? = some threshold)
      (due : engine.DeviationDue context trigger.feed threshold snapshot)

theorem record_fires (review : Review) (feed : FeedId) (kind : ConditionKind) (check : Check) :
    (review.record feed kind check).fires = (review.fires || check.fires) := by
  unfold Review.record
  cases fires : check.fires <;> simp

theorem reviewTime_fires (engine : Engine) (context : IterationContext) (trigger : Trigger)
    (snapshot : Snapshot) (review : Review) :
    (engine.reviewTime context trigger snapshot review).fires = true ↔
      review.fires = true ∨ ∃ interval,
        engine.triggers.heartbeat? trigger context.now = some interval ∧
        Condition.timeDue interval snapshot.blockTimestamp context.now
          engine.fallback.offset = true := by
  unfold reviewTime
  cases configured : engine.triggers.heartbeat? trigger context.now with
  | none => simp
  | some interval =>
    cases passed : Condition.timeDue interval snapshot.blockTimestamp context.now
        engine.fallback.offset <;>
      simp [record_fires, Condition.time, passed]

theorem reviewCron_fires (engine : Engine) (context : IterationContext) (trigger : Trigger)
    (snapshot : Snapshot) (review : Review) :
    (engine.reviewCron context trigger snapshot review).fires = true ↔
      review.fires = true ∨ Condition.cronDue trigger.schedules snapshot.blockTimestamp context.now
        engine.fallback.offset = true := by
  unfold reviewCron
  split
  · rename_i empty
    simp [List.isEmpty_iff.mp empty, Condition.cronDue]
  · simp [record_fires, Condition.cron]

theorem pastDeviation_fst (engine : Engine) (feed : FeedId) (stored : Nat) (threshold : Float)
    (latest : Condition.Deviation) (past : PastPackages) :
    (engine.pastDeviation feed stored threshold latest past).1 =
      if Condition.needsPast latest engine.fallback then
        some (match past.answer with
          | some packages => Condition.deviation feed packages stored threshold
          | none => pastUnavailable)
      else none := by
  unfold pastDeviation
  split
  · exact congrArg (fun packages? : Option PackageSet => some (match packages? with
      | some packages => Condition.deviation feed packages stored threshold
      | none => pastUnavailable)) past.get_fst
  · rfl

@[simp] theorem answer_pastDeviation (engine : Engine) (feed : FeedId) (stored : Nat)
    (threshold : Float) (latest : Condition.Deviation) (past : PastPackages) :
    (engine.pastDeviation feed stored threshold latest past).2.answer = past.answer := by
  unfold pastDeviation
  split <;> simp

theorem combine_fires (latest : Condition.Deviation) (past : Option Condition.Deviation)
    (fallback : Fallback) (last now : Millis) :
    (Condition.combine latest past fallback last now).fires = true ↔
      latest.fires = true ∧ (∀ check, past = some check → check.fires = true) ∧
      Condition.tooFrequent fallback last now = false := by
  cases past <;> simp [Condition.combine, and_assoc]

theorem combined_fires (engine : Engine) (context : IterationContext) (feed : FeedId)
    (threshold : Float) (snapshot : Snapshot) (past : PastPackages)
    (same : past.answer = context.past.answer) :
    (Condition.combine (Condition.deviation feed context.packages snapshot.value threshold)
      (engine.pastDeviation feed snapshot.value threshold
        (Condition.deviation feed context.packages snapshot.value threshold) past).1
      engine.fallback snapshot.blockTimestamp context.now).fires = true ↔
      engine.DeviationDue context feed threshold snapshot := by
  rw [combine_fires, pastDeviation_fst, same]
  constructor
  · intro ⟨latest, past, seldom⟩
    refine ⟨latest, fun active => ?_, seldom⟩
    -- The past was consulted: a backup does so whenever the latest packages deviate.
    have needed : Condition.needsPast
        (Condition.deviation feed context.packages snapshot.value threshold)
        engine.fallback = true := by
      simp [Condition.needsPast, active, latest]
    have fires := past _ (if_pos needed)
    cases answer : context.past.answer with
    | none => simp [answer, pastUnavailable] at fires
    | some packages => exact ⟨packages, rfl, by simpa [answer] using fires⟩
  · intro due
    refine ⟨due.latest, fun check made => ?_, due.seldom⟩
    split at made
    · rename_i needed
      have active : engine.fallback.isActive = true := by
        simp only [Condition.needsPast, Bool.and_eq_true] at needed
        exact needed.1
      obtain ⟨packages, answer, fires⟩ := due.past active
      rw [answer] at made
      exact Option.some.inj made ▸ fires
    · cases made

theorem reviewDeviation_fires (engine : Engine) (context : IterationContext) (trigger : Trigger)
    (snapshot : Snapshot) (past : PastPackages) (same : past.answer = context.past.answer)
    (review : Review) :
    (engine.reviewDeviation context trigger snapshot past review).1.fires = true ↔
      review.fires = true ∨ ∃ threshold, trigger.deviation? = some threshold ∧
        engine.DeviationDue context trigger.feed threshold snapshot := by
  unfold reviewDeviation
  cases configured : trigger.deviation? with
  | none => simp
  | some threshold =>
    simp only [record_fires, Bool.or_eq_true,
      combined_fires engine context trigger.feed threshold snapshot past same]
    simp

@[simp] theorem answer_reviewDeviation (engine : Engine) (context : IterationContext)
    (trigger : Trigger) (snapshot : Snapshot) (past : PastPackages) (review : Review) :
    (engine.reviewDeviation context trigger snapshot past review).2.answer = past.answer := by
  unfold reviewDeviation
  split <;> simp

/-- A review fires exactly when some condition of the trigger does. -/
theorem review_fires (engine : Engine) (context : IterationContext) (trigger : Trigger)
    (snapshot : Snapshot) (past : PastPackages) (same : past.answer = context.past.answer) :
    (engine.review context trigger snapshot past).1.fires = true ↔
      engine.Fires context trigger snapshot := by
  unfold review
  rw [reviewDeviation_fires engine context trigger snapshot past same, reviewCron_fires,
    reviewTime_fires]
  constructor
  · rintro (((fired | ⟨interval, configured, passed⟩) | fired) | ⟨threshold, configured, due⟩)
    · cases fired
    · exact .deadline (.heartbeat interval configured passed)
    · exact .deadline (.schedule fired)
    · exact .deviation threshold configured due
  · rintro (⟨⟨interval, configured, passed⟩ | fired⟩ | ⟨threshold, configured, due⟩)
    · exact .inl (.inl (.inr ⟨interval, configured, passed⟩))
    · exact .inl (.inr fired)
    · exact .inr ⟨threshold, configured, due⟩

end Engine

end PriceRelay
