import Mathlib.Data.List.Nodup
import PriceRelay.Proofs.Decision.Closure
import PriceRelay.Proofs.Decision.Recorded
/-!
Which feeds a decision writes, said without the sweeps: the least set with the fresh feeds that
fire and the fresh feeds with a reason to join them. A set of this kind grows with its reasons, and
so two engines are compared trigger by trigger.
-/

namespace PriceRelay

theorem TriggerSet.eq_of_feed_eq {set : TriggerSet} (distinct : set.feeds.Nodup)
    {first second : Trigger} (left : first ∈ set.triggers) (right : second ∈ set.triggers)
    (same : first.feed = second.feed) : first = second :=
  List.inj_on_of_nodup_map distinct left right same

namespace Engine

/-- Some fresh trigger fires, so that an update is made. -/
def Updates (engine : Engine) (context : IterationContext) : Prop :=
  ∃ trigger ∈ engine.triggers.triggers, ∃ snapshot, context.Fresh trigger.feed snapshot ∧
    engine.Fires context trigger snapshot

/-- Why a feed is written. -/
inductive Written (engine : Engine) (context : IterationContext) : FeedId → Prop where
  | due {trigger : Trigger} {snapshot : Snapshot}
      (configured : trigger ∈ engine.triggers.triggers)
      (fresh : context.Fresh trigger.feed snapshot)
      (fires : engine.Fires context trigger snapshot) : Written engine context trigger.feed
  /-- Its deviation comes near to its threshold. -/
  | near {trigger : Trigger} {snapshot : Snapshot} {threshold ratio : Float}
      (updates : engine.Updates context) (configured : trigger ∈ engine.triggers.triggers)
      (fresh : context.Fresh trigger.feed snapshot)
      (limit : engine.optimization.threshold? = some threshold)
      (recorded : engine.ratio? context trigger snapshot = some ratio)
      (reached : threshold ≤ ratio) : Written engine context trigger.feed
  /-- Its heartbeat goes with one that has passed, be it that of a stale feed. -/
  | synced {trigger other : Trigger} {snapshot known : Snapshot} {interval passed : Millis}
      (updates : engine.Updates context) (configured : trigger ∈ engine.triggers.triggers)
      (fresh : context.Fresh trigger.feed snapshot)
      (enabled : engine.optimization.syncHeartbeats = true)
      (own : engine.triggers.heartbeat? trigger context.now = some interval)
      (beside : other ∈ engine.triggers.triggers) (observed : context.Observed other.feed known)
      (due : engine.HeartbeatDue context other known passed)
      (sync : Widening.inSync interval passed = true) : Written engine context trigger.feed
  /-- It shares a package with a feed that is written. -/
  | shared {trigger : Trigger} {snapshot : Snapshot} {other : FeedId}
      (configured : trigger ∈ engine.triggers.triggers)
      (fresh : context.Fresh trigger.feed snapshot)
      (enabled : engine.optimization.isEnabled = true)
      (sharing : other ∈ context.packages.sharing trigger.feed)
      (written : Written engine context other) : Written engine context trigger.feed

variable {engine : Engine} {context : IterationContext}

theorem Written.updates {feed : FeedId} (written : engine.Written context feed) :
    engine.Updates context := by
  induction written with
  | due configured fresh fires => exact ⟨_, configured, _, fresh, fires⟩
  | near updates => exact updates
  | synced updates => exact updates
  | shared _ _ _ _ _ ih => exact ih

theorem mem_candidates_found_iff {candidate : Candidate} :
    candidate ∈ engine.candidates context.now (engine.found context) ↔
      ∃ trigger ∈ engine.triggers.triggers, ∃ snapshot, context.Fresh trigger.feed snapshot ∧
        (⟨trigger.feed, engine.triggers.heartbeat? trigger context.now⟩ : Candidate) =
          candidate := by
  rw [← exists_freshReview?_iff fun trigger _ =>
    (⟨trigger.feed, engine.triggers.heartbeat? trigger context.now⟩ : Candidate) = candidate]
  · simp only [candidates, List.mem_filterMap, Option.map_eq_some_iff]
  · intros
    exact Iff.rfl

theorem selected_ne_nil_iff : selected (engine.found context) ≠ [] ↔ engine.Updates context := by
  constructor
  · intro some_selected
    obtain ⟨feed, member⟩ := List.exists_mem_of_ne_nil _ some_selected
    obtain ⟨trigger, configured, rfl, snapshot, fresh, fires⟩ :=
      (engine.mem_selected_found_iff context feed).mp member
    exact ⟨trigger, configured, snapshot, fresh, fires⟩
  · intro ⟨trigger, configured, snapshot, fresh, fires⟩
    exact List.ne_nil_of_mem ((engine.mem_selected_found_iff context trigger.feed).mpr
      ⟨trigger, configured, rfl, snapshot, fresh, fires⟩)

theorem joins_of_written (decision : Decision) (distinct : engine.triggers.feeds.Nodup)
    (chosen : decision.feeds = selected (engine.found context))
    (ratios : decision.ratios = (decide context.block (engine.found context)).ratios)
    (heartbeats : decision.heartbeats = (decide context.block (engine.found context)).heartbeats)
    {feed : FeedId} (written : engine.Written context feed) :
    Widening.Joins decision (engine.candidates context.now (engine.found context))
      engine.optimization context.packages feed := by
  induction written with
  | due configured fresh fires =>
    apply Widening.Joins.selected
    rw [chosen, engine.mem_selected_found_iff]
    exact ⟨_, configured, rfl, _, fresh, fires⟩
  | near _ configured fresh limit recorded reached =>
    apply Widening.Joins.near (mem_candidates_found_iff.mpr ⟨_, configured, _, fresh, rfl⟩) limit
      _ reached
    rw [ratios, find?_ratios_iff distinct]
    exact ⟨_, configured, _, fresh.observed, rfl, recorded⟩
  | synced _ configured fresh enabled own beside observed due sync =>
    apply Widening.Joins.synced (mem_candidates_found_iff.mpr ⟨_, configured, _, fresh, rfl⟩)
      enabled own _ sync
    rw [heartbeats, mem_heartbeats_iff]
    exact ⟨_, beside, _, observed, due⟩
  | shared configured fresh enabled sharing _ ih =>
    exact .shared (mem_candidates_found_iff.mpr ⟨_, configured, _, fresh, rfl⟩) enabled sharing ih

theorem written_of_joins {decision : Decision} (distinct : engine.triggers.feeds.Nodup)
    (chosen : decision.feeds = selected (engine.found context))
    (ratios : decision.ratios = (decide context.block (engine.found context)).ratios)
    (heartbeats : decision.heartbeats = (decide context.block (engine.found context)).heartbeats)
    (updates : engine.Updates context) {feed : FeedId}
    (joins : Widening.Joins decision (engine.candidates context.now (engine.found context))
      engine.optimization context.packages feed) :
    engine.Written context feed := by
  induction joins with
  | selected member =>
    rw [chosen, engine.mem_selected_found_iff] at member
    obtain ⟨trigger, configured, rfl, snapshot, fresh, fires⟩ := member
    exact .due configured fresh fires
  | near among limit recorded reached =>
    obtain ⟨trigger, configured, snapshot, fresh, rfl⟩ := mem_candidates_found_iff.mp among
    rw [ratios, find?_ratios_iff distinct] at recorded
    obtain ⟨other, present, known, observed, same, recorded⟩ := recorded
    obtain rfl := TriggerSet.eq_of_feed_eq distinct present configured same
    obtain rfl : known = snapshot :=
      Option.some.inj (observed.stored.symm.trans fresh.stored)
    exact .near updates configured fresh limit recorded reached
  | synced among enabled own passed sync =>
    obtain ⟨trigger, configured, snapshot, fresh, rfl⟩ := mem_candidates_found_iff.mp among
    rw [heartbeats, mem_heartbeats_iff] at passed
    obtain ⟨other, beside, known, observed, due⟩ := passed
    exact .synced updates configured fresh enabled own beside observed due sync
  | shared among enabled sharing _ ih =>
    obtain ⟨trigger, configured, snapshot, fresh, rfl⟩ := mem_candidates_found_iff.mp among
    exact .shared configured fresh enabled sharing ih

/-- For distinct feeds, a decision writes a feed exactly where there is a reason to. -/
theorem mem_evaluate_iff (distinct : engine.triggers.feeds.Nodup) {feed : FeedId} :
    feed ∈ (engine.evaluate context).1.feeds ↔ engine.Written context feed := by
  obtain ⟨messages, widens⟩ := engine.optimize_eq_widen context (engine.found context)
    (decide context.block (engine.found context))
  let decision : Decision := { decide context.block (engine.found context) with messages }
  have chosen : decision.feeds = selected (engine.found context) := rfl
  have ordered : (engine.evaluate context).1.feeds = inOrder engine.triggers.feeds
      (engine.optimize context (engine.found context)
        (decide context.block (engine.found context))).feeds := rfl
  rw [ordered, inOrder, List.mem_mergeSort, widens, Decision.mem_widen_iff
    (engine.selected_subset_candidates context.now (engine.found context))]
  constructor
  · rintro ⟨some_selected, joins⟩
    have updates := selected_ne_nil_iff.mp some_selected
    exact written_of_joins distinct chosen rfl rfl updates joins
  · intro written
    have some_selected := selected_ne_nil_iff.mpr written.updates
    exact ⟨some_selected, joins_of_written decision distinct chosen rfl rfl written⟩

/-- Whatever makes a trigger of one engine due makes its counterpart of another due. -/
structure Counterpart (less more : Engine) (context : IterationContext)
    (trigger counterpart : Trigger) : Prop where
  feed : counterpart.feed = trigger.feed
  heartbeat : ∀ interval, less.triggers.heartbeat? trigger context.now = some interval →
    more.triggers.heartbeat? counterpart context.now = some interval
  heartbeatDue : ∀ snapshot interval, less.HeartbeatDue context trigger snapshot interval →
    more.HeartbeatDue context counterpart snapshot interval
  scheduleDue : ∀ snapshot, less.ScheduleDue context trigger snapshot →
    more.ScheduleDue context counterpart snapshot
  deviationDue : ∀ snapshot threshold, trigger.deviation? = some threshold →
    less.DeviationDue context trigger.feed threshold snapshot →
    counterpart.deviation? = some threshold ∧
      more.DeviationDue context counterpart.feed threshold snapshot
  /-- Ratios matter only where feeds join by them. -/
  ratio : less.optimization.threshold?.isSome = true → ∀ snapshot ratio,
    less.ratio? context trigger snapshot = some ratio →
    more.ratio? context counterpart snapshot = some ratio

/-- Every trigger of one engine has a counterpart in another. -/
structure Extends (less more : Engine) (context : IterationContext) : Prop where
  optimization : more.optimization = less.optimization
  counterpart : ∀ trigger ∈ less.triggers.triggers, ∃ counterpart ∈ more.triggers.triggers,
    less.Counterpart more context trigger counterpart

section

variable {less more : Engine}

theorem Counterpart.deadlineDue {trigger counterpart : Trigger}
    (pair : less.Counterpart more context trigger counterpart) {snapshot : Snapshot}
    (due : less.DeadlineDue context trigger snapshot) :
    more.DeadlineDue context counterpart snapshot := by
  rw [deadlineDue_iff] at due ⊢
  rcases due with ⟨interval, due⟩ | due
  · exact .inl ⟨interval, pair.heartbeatDue snapshot interval due⟩
  · exact .inr (pair.scheduleDue snapshot due)

theorem Counterpart.fires {trigger counterpart : Trigger}
    (pair : less.Counterpart more context trigger counterpart) {snapshot : Snapshot}
    (fires : less.Fires context trigger snapshot) : more.Fires context counterpart snapshot := by
  cases fires with
  | deadline due => exact .deadline (pair.deadlineDue due)
  | deviation threshold configured due =>
    obtain ⟨configured, due⟩ := pair.deviationDue snapshot threshold configured due
    exact .deviation threshold configured due

theorem Extends.updates (larger : less.Extends more context) (updates : less.Updates context) :
    more.Updates context := by
  obtain ⟨trigger, configured, snapshot, fresh, fires⟩ := updates
  obtain ⟨other, present, pair⟩ := larger.counterpart trigger configured
  exact ⟨other, present, snapshot, pair.feed ▸ fresh, pair.fires fires⟩

theorem Written.mono (larger : less.Extends more context) {feed : FeedId}
    (written : less.Written context feed) : more.Written context feed := by
  induction written with
  | due configured fresh fires =>
    obtain ⟨other, present, pair⟩ := larger.counterpart _ configured
    rw [← pair.feed] at fresh ⊢
    exact .due present fresh (pair.fires fires)
  | near updates configured fresh limit recorded reached =>
    obtain ⟨other, present, pair⟩ := larger.counterpart _ configured
    rw [← pair.feed] at fresh ⊢
    have recorded := pair.ratio (by simp [limit]) _ _ recorded
    rw [← larger.optimization] at limit
    exact .near (larger.updates updates) present fresh limit recorded reached
  | synced updates configured fresh enabled own beside observed due sync =>
    obtain ⟨other, present, pair⟩ := larger.counterpart _ configured
    obtain ⟨fired, listed, firedPair⟩ := larger.counterpart _ beside
    rw [← pair.feed] at fresh ⊢
    rw [← firedPair.feed] at observed
    rw [← larger.optimization] at enabled
    exact .synced (larger.updates updates) present fresh enabled (pair.heartbeat _ own) listed
      observed (firedPair.heartbeatDue _ _ due) sync
  | shared configured fresh enabled sharing _ ih =>
    obtain ⟨other, present, pair⟩ := larger.counterpart _ configured
    rw [← pair.feed] at fresh sharing ⊢
    rw [← larger.optimization] at enabled
    exact .shared present fresh enabled sharing ih

theorem Extends.hardDeadline (larger : less.Extends more context)
    (deadline : (less.evaluate context).1.hardDeadline = true) :
    (more.evaluate context).1.hardDeadline = true := by
  rw [evaluate_hardDeadline_iff] at deadline ⊢
  obtain ⟨trigger, configured, snapshot, fresh, due⟩ := deadline
  obtain ⟨other, present, pair⟩ := larger.counterpart trigger configured
  exact ⟨other, present, snapshot, pair.feed ▸ fresh, pair.deadlineDue due⟩

end

end Engine

end PriceRelay
