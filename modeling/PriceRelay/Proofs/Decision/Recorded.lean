import PriceRelay.Proofs.Decision.Selection
import PriceRelay.Proofs.Packages.Lookup
/-!
What a decision records besides its feeds: the heartbeats that fired, the ratios of deviations, and
whether a deadline depends on it. Heartbeats and ratios are those of all feeds with packages and a
stored state; deadlines count for fresh feeds only.
-/

namespace PriceRelay

/-- A feed has packages and a stored state. -/
structure IterationContext.Observed (context : IterationContext) (feed : FeedId)
    (snapshot : Snapshot) : Prop where
  served : context.packages.listed feed ≠ []
  stored : context.contract.find? feed = some snapshot

theorem IterationContext.Fresh.observed {context : IterationContext} {feed : FeedId}
    {snapshot : Snapshot} (fresh : context.Fresh feed snapshot) : context.Observed feed snapshot :=
  ⟨fresh.served, fresh.stored⟩

theorem mem_insertHeartbeat_iff {heartbeat other : Millis} {heartbeats : List Millis} :
    other ∈ insertHeartbeat heartbeat heartbeats ↔ other = heartbeat ∨ other ∈ heartbeats := by
  induction heartbeats with
  | nil => simp [insertHeartbeat]
  | cons first rest ih =>
    rw [insertHeartbeat]
    split
    · simp
    · split
      · rename_i same
        simp [same]
      · simp only [List.mem_cons, ih]
        exact or_left_comm

theorem mem_insertHeartbeats_iff {other : Millis} {added heartbeats : List Millis} :
    other ∈ added.foldl (fun all heartbeat => insertHeartbeat heartbeat all) heartbeats ↔
      other ∈ added ∨ other ∈ heartbeats := by
  induction added generalizing heartbeats with
  | nil => simp
  | cons first rest ih =>
    rw [List.foldl_cons, ih, mem_insertHeartbeat_iff, List.mem_cons]
    rw [or_left_comm, or_assoc]

namespace Engine

variable {engine : Engine} {context : IterationContext} {trigger : Trigger} {snapshot : Snapshot}

/-- The heartbeat of a trigger has passed. -/
structure HeartbeatDue (engine : Engine) (context : IterationContext) (trigger : Trigger)
    (snapshot : Snapshot) (interval : Millis) : Prop where
  configured : engine.triggers.heartbeat? trigger context.now = some interval
  passed : Condition.timeDue interval snapshot.blockTimestamp context.now
    engine.fallback.offset = true

def ScheduleDue (engine : Engine) (context : IterationContext) (trigger : Trigger)
    (snapshot : Snapshot) : Prop :=
  Condition.cronDue trigger.schedules snapshot.blockTimestamp context.now
    engine.fallback.offset = true

theorem deadlineDue_iff :
    engine.DeadlineDue context trigger snapshot ↔
      (∃ interval, engine.HeartbeatDue context trigger snapshot interval) ∨
        engine.ScheduleDue context trigger snapshot := by
  constructor
  · rintro (⟨interval, configured, passed⟩ | fired)
    · exact .inl ⟨interval, configured, passed⟩
    · exact .inr fired
  · rintro (⟨interval, due⟩ | fired)
    · exact .heartbeat interval due.configured due.passed
    · exact .schedule fired

/-- The joined check of the latest and the past packages. -/
def deviationCheck (engine : Engine) (context : IterationContext) (feed : FeedId)
    (threshold : Float) (snapshot : Snapshot) : Check :=
  let latest := Condition.deviation feed context.packages snapshot.value threshold
  Condition.combine latest
    (engine.pastDeviation feed snapshot.value threshold latest context.past).1 engine.fallback
    snapshot.blockTimestamp context.now

/-- The ratio that is recorded for a trigger. -/
def ratio? (engine : Engine) (context : IterationContext) (trigger : Trigger)
    (snapshot : Snapshot) : Option Float :=
  trigger.deviation?.bind fun threshold =>
    (engine.deviationCheck context trigger.feed threshold snapshot).ratio?

section

variable (review : Review) (feed : FeedId) (kind : ConditionKind) (check : Check)

@[simp] theorem record_heartbeat? : (review.record feed kind check).heartbeat? = review.heartbeat? := by
  unfold Review.record
  cases check.fires <;> rfl

@[simp] theorem record_ratio? : (review.record feed kind check).ratio? = review.ratio? := by
  unfold Review.record
  cases check.fires <;> rfl

@[simp] theorem record_deadline : (review.record feed kind check).deadline =
    (review.deadline || check.fires && Decidable.decide (kind ≠ .deviation)) := by
  unfold Review.record
  cases check.fires <;> simp

end

@[simp] theorem reviewCron_heartbeat? (review : Review) :
    (engine.reviewCron context trigger snapshot review).heartbeat? = review.heartbeat? := by
  unfold reviewCron
  split <;> simp

@[simp] theorem reviewCron_ratio? (review : Review) :
    (engine.reviewCron context trigger snapshot review).ratio? = review.ratio? := by
  unfold reviewCron
  split <;> simp

theorem reviewCron_deadline (review : Review) :
    (engine.reviewCron context trigger snapshot review).deadline = true ↔
      review.deadline = true ∨ engine.ScheduleDue context trigger snapshot := by
  unfold reviewCron ScheduleDue
  split
  · rename_i empty
    simp [List.isEmpty_iff.mp empty, Condition.cronDue]
  · simp [Condition.cron]

theorem reviewTime_heartbeat? {interval : Millis} :
    (engine.reviewTime context trigger snapshot {}).heartbeat? = some interval ↔
      engine.HeartbeatDue context trigger snapshot interval := by
  unfold reviewTime
  constructor
  · intro recorded
    cases configured : engine.triggers.heartbeat? trigger context.now with
    | none => simp [configured] at recorded
    | some heartbeat =>
      by_cases passed : Condition.timeDue heartbeat snapshot.blockTimestamp context.now
          engine.fallback.offset = true
      · simp only [configured, Condition.time, passed, record_heartbeat?] at recorded
        cases recorded
        exact ⟨configured, passed⟩
      · simp [configured, Condition.time, passed] at recorded
  · intro due
    simp [due.configured, Condition.time, due.passed]

@[simp] theorem reviewTime_ratio? :
    (engine.reviewTime context trigger snapshot {}).ratio? = none := by
  unfold reviewTime
  cases engine.triggers.heartbeat? trigger context.now with
  | none => rfl
  | some heartbeat => cases due : (Condition.time heartbeat snapshot.blockTimestamp context.now
      engine.fallback.offset).fires <;> simp [due]

theorem reviewTime_deadline :
    (engine.reviewTime context trigger snapshot {}).deadline = true ↔
      ∃ interval, engine.HeartbeatDue context trigger snapshot interval := by
  simp only [← reviewTime_heartbeat?, ← Option.isSome_iff_exists]
  unfold reviewTime
  cases engine.triggers.heartbeat? trigger context.now with
  | none => simp
  | some heartbeat => cases due : (Condition.time heartbeat snapshot.blockTimestamp context.now
      engine.fallback.offset).fires <;> simp [due]

section

variable {past : PastPackages}

theorem review_heartbeat? {interval : Millis} :
    (engine.review context trigger snapshot past).1.heartbeat? = some interval ↔
      engine.HeartbeatDue context trigger snapshot interval := by
  rw [← reviewTime_heartbeat?]
  unfold review reviewDeviation
  cases trigger.deviation? <;> simp

theorem review_deadline :
    (engine.review context trigger snapshot past).1.deadline = true ↔
      engine.DeadlineDue context trigger snapshot := by
  rw [deadlineDue_iff, ← reviewTime_deadline, ← reviewCron_deadline]
  unfold review reviewDeviation
  cases trigger.deviation? <;> simp

/-- The ratio does not depend on when the past packages were asked for. -/
theorem review_ratio? (same : past.answer = context.past.answer) :
    (engine.review context trigger snapshot past).1.ratio? =
      engine.ratio? context trigger snapshot := by
  unfold review reviewDeviation ratio? deviationCheck
  cases trigger.deviation? with
  | none => simp
  | some threshold => simp [pastDeviation_fst, same]

theorem find_review? {review : Review} :
    (engine.find context trigger past).1.review? = some review ↔
      ∃ snapshot, context.Observed trigger.feed snapshot ∧
        (engine.review context trigger snapshot past).1 = review := by
  unfold find
  by_cases served : context.packages.has trigger.feed = true
  · rw [if_pos served]
    rw [PackageSet.has_iff] at served
    cases stored : context.contract.find? trigger.feed with
    | none =>
      refine ⟨nofun, ?_⟩
      rintro ⟨snapshot, observed, _⟩
      simp [observed.stored] at stored
    | some snapshot =>
      simp only [Finding.review?, Option.some.injEq]
      constructor
      · intro same
        exact ⟨snapshot, ⟨served, stored⟩, same⟩
      · rintro ⟨other, observed, same⟩
        obtain rfl : other = snapshot := Option.some.inj (observed.stored.symm.trans stored)
        exact same
  · rw [if_neg served]
    refine ⟨nofun, ?_⟩
    rintro ⟨snapshot, observed, _⟩
    exact absurd ((context.packages.has_iff trigger.feed).mpr observed.served) served

end

section

variable (holds : Trigger → Review → Prop) {means : Trigger → Snapshot → Prop}
  (meaning : ∀ trigger snapshot (past : PastPackages), past.answer = context.past.answer →
    (holds trigger (engine.review context trigger snapshot past).1 ↔ means trigger snapshot))

include meaning

theorem exists_kept_iff {kept? : Finding → Option Review} {seen : FeedId → Snapshot → Prop}
    (keeps : ∀ trigger past review, kept? (engine.find context trigger past).1 = some review ↔
      ∃ snapshot, seen trigger.feed snapshot ∧
        (engine.review context trigger snapshot past).1 = review) :
    (∃ entry ∈ engine.found context, ∃ review, kept? entry.2 = some review ∧
        holds entry.1 review) ↔
      ∃ trigger ∈ engine.triggers.triggers, ∃ snapshot, seen trigger.feed snapshot ∧
        means trigger snapshot := by
  constructor
  · intro ⟨entry, present, review, kept, known⟩
    obtain ⟨past, same, found⟩ := findings_of_mem rfl present
    rw [← found, keeps] at kept
    obtain ⟨snapshot, watched, rfl⟩ := kept
    have configured := (engine.mem_triggers_iff context entry.1).mpr ⟨entry, present, rfl⟩
    exact ⟨entry.1, configured, snapshot, watched, (meaning _ _ past same).mp known⟩
  · intro ⟨trigger, configured, snapshot, watched, known⟩
    obtain ⟨entry, present, rfl⟩ := (engine.mem_triggers_iff context trigger).mp configured
    obtain ⟨past, same, found⟩ := findings_of_mem rfl present
    refine ⟨entry, present, (engine.review context entry.1 snapshot past).1, ?_, ?_⟩
    · rw [← found, keeps]
      exact ⟨snapshot, watched, rfl⟩
    · exact (meaning _ _ past same).mpr known

theorem exists_review?_iff :
    (∃ entry ∈ engine.found context, ∃ review, entry.2.review? = some review ∧
        holds entry.1 review) ↔
      ∃ trigger ∈ engine.triggers.triggers, ∃ snapshot, context.Observed trigger.feed snapshot ∧
        means trigger snapshot :=
  exists_kept_iff holds meaning fun _ _ _ => find_review?

theorem exists_freshReview?_iff :
    (∃ entry ∈ engine.found context, ∃ review, entry.2.freshReview? = some review ∧
        holds entry.1 review) ↔
      ∃ trigger ∈ engine.triggers.triggers, ∃ snapshot, context.Fresh trigger.feed snapshot ∧
        means trigger snapshot :=
  exists_kept_iff holds meaning fun _ _ _ => find_freshReview?

end

theorem mem_heartbeats_iff {interval : Millis} :
    interval ∈ (decide context.block (engine.found context)).heartbeats ↔
      ∃ trigger ∈ engine.triggers.triggers, ∃ snapshot, context.Observed trigger.feed snapshot ∧
        engine.HeartbeatDue context trigger snapshot interval := by
  rw [← exists_review?_iff fun _ review => review.heartbeat? = some interval]
  · unfold decide
    dsimp only
    rw [mem_insertHeartbeats_iff]
    simp only [List.mem_filterMap, Option.map_eq_some_iff, List.not_mem_nil, or_false]
    constructor
    · rintro ⟨_, ⟨entry, present, review, kept, rfl⟩, passed⟩
      exact ⟨entry, present, review, kept, passed⟩
    · intro ⟨entry, present, review, kept, passed⟩
      exact ⟨(entry.1.feed, review), ⟨entry, present, review, kept, rfl⟩, passed⟩
  · intro trigger snapshot past _
    exact review_heartbeat?

/-- The ratios in the order in which they are recorded. -/
def recordedRatios (found : List (Trigger × Finding)) : List (FeedId × Float) :=
  (found.filterMap fun (trigger, finding) =>
    finding.review?.map fun review => (trigger.feed, review)).filterMap fun (feed, review) =>
      review.ratio?.map fun ratio => (feed, ratio)

theorem decide_ratios (block : Nat) (found : List (Trigger × Finding)) :
    (decide block found).ratios = FeedMap.ofList (recordedRatios found) := rfl

theorem mem_recordedRatios_iff {feed : FeedId} {ratio : Float} :
    (feed, ratio) ∈ recordedRatios (engine.found context) ↔
      ∃ trigger ∈ engine.triggers.triggers, ∃ snapshot, context.Observed trigger.feed snapshot ∧
        trigger.feed = feed ∧ engine.ratio? context trigger snapshot = some ratio := by
  rw [← exists_review?_iff
    fun trigger review => trigger.feed = feed ∧ review.ratio? = some ratio]
  · simp only [recordedRatios, List.mem_filterMap, Option.map_eq_some_iff, Prod.mk.injEq]
    constructor
    · rintro ⟨_, ⟨entry, present, review, kept, rfl⟩, value, recorded, rfl, rfl⟩
      exact ⟨entry, present, review, kept, rfl, recorded⟩
    · rintro ⟨entry, present, review, kept, rfl, recorded⟩
      exact ⟨(entry.1.feed, review), ⟨entry, present, review, kept, rfl⟩, ratio, recorded, rfl, rfl⟩
  · intro trigger snapshot past same
    rw [review_ratio? same]

theorem find?_ratios_iff (distinct : engine.triggers.feeds.Nodup) {feed : FeedId}
    {ratio : Float} :
    (decide context.block (engine.found context)).ratios.find? feed = some ratio ↔
      ∃ trigger ∈ engine.triggers.triggers, ∃ snapshot, context.Observed trigger.feed snapshot ∧
        trigger.feed = feed ∧ engine.ratio? context trigger snapshot = some ratio := by
  rw [← mem_recordedRatios_iff, decide_ratios, FeedMap.find?_ofList_iff]
  -- One entry at most is made of each finding, under the feed of its trigger.
  rw [← engine.found_feeds context, List.nodup_iff_pairwise_ne, List.pairwise_map] at distinct
  rw [recordedRatios, List.nodup_iff_pairwise_ne, List.pairwise_map, List.pairwise_filterMap,
    List.pairwise_filterMap]
  apply distinct.imp
  intro first second different
  simp only [Option.map_eq_some_iff]
  rintro _ ⟨_, _, rfl⟩ _ ⟨_, _, rfl⟩ _ ⟨_, _, rfl⟩ _ ⟨_, _, rfl⟩
  exact different

/-- After a decision is made only its feeds and messages change. -/
theorem evaluate_eq (engine : Engine) (context : IterationContext) : ∃ feeds messages,
    (engine.evaluate context).1 =
      { decide context.block (engine.found context) with feeds, messages } := by
  obtain ⟨noted, widens⟩ := engine.optimize_eq_widen context (engine.found context)
    (decide context.block (engine.found context))
  obtain ⟨widened, messages, same⟩ := Decision.widen_eq
    { decide context.block (engine.found context) with messages := noted }
    (engine.candidates context.now (engine.found context)) engine.optimization context.packages
  refine ⟨inOrder engine.triggers.feeds widened, messages, ?_⟩
  have ordered : (engine.evaluate context).1 =
      let decision := engine.optimize context (engine.found context)
        (decide context.block (engine.found context))
      { decision with feeds := inOrder engine.triggers.feeds decision.feeds } := rfl
  rw [ordered, widens, same]

theorem evaluate_block (engine : Engine) (context : IterationContext) :
    (engine.evaluate context).1.block = context.block := by
  obtain ⟨_, _, same⟩ := engine.evaluate_eq context
  rw [same]
  rfl

/-- The ratios of a decision are those that it recorded before it was widened. -/
theorem evaluate_ratios (engine : Engine) (context : IterationContext) :
    (engine.evaluate context).1.ratios = (decide context.block (engine.found context)).ratios := by
  obtain ⟨_, _, same⟩ := engine.evaluate_eq context
  rw [same]

theorem evaluate_hardDeadline_iff :
    (engine.evaluate context).1.hardDeadline = true ↔
      ∃ trigger ∈ engine.triggers.triggers, ∃ snapshot, context.Fresh trigger.feed snapshot ∧
        engine.DeadlineDue context trigger snapshot := by
  rw [← exists_freshReview?_iff
    fun _ review => review.fires = true ∧ review.deadline = true]
  · obtain ⟨_, _, same⟩ := engine.evaluate_eq context
    rw [same]
    unfold decide
    simp [Option.any_eq_true]
  · intro trigger snapshot past same
    rw [review_deadline, review_fires _ _ _ _ _ same, and_iff_right_iff_imp]
    exact Fires.deadline

end Engine

end PriceRelay
