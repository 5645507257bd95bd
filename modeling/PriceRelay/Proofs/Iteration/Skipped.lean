import PriceRelay.Proofs.Decision.Recorded
import PriceRelay.Proofs.Iteration.Course
/-!
Updates that are skipped. A decision is optional exactly where no feed that it writes has a deadline,
and a delivery skips optional updates only; so no deadline is passed over, be the feed selected or
only added.
-/

namespace PriceRelay

namespace Engine

variable {engine : Engine} {context : IterationContext}

theorem evaluate_isOptional_iff :
    (engine.evaluate context).1.isOptional = true ↔
      ∀ trigger ∈ engine.triggers.triggers, ∀ snapshot, context.Fresh trigger.feed snapshot →
        ¬engine.DeadlineDue context trigger snapshot := by
  unfold Decision.isOptional
  rw [Bool.not_eq_true', ← Bool.not_eq_true, evaluate_hardDeadline_iff]
  constructor
  · intro none_due trigger configured snapshot fresh due
    exact none_due ⟨trigger, configured, snapshot, fresh, due⟩
  · intro none_due ⟨trigger, configured, snapshot, fresh, due⟩
    exact none_due trigger configured snapshot fresh due

/-- It is enough to look at the feeds that are written: each is fresh, and every fresh trigger with
a deadline is among them. -/
theorem evaluate_isOptional_iff_written :
    (engine.evaluate context).1.isOptional = true ↔
      ∀ trigger ∈ engine.triggers.triggers, trigger.feed ∈ (engine.evaluate context).1.feeds →
        ∀ snapshot, context.contract.find? trigger.feed = some snapshot →
          ¬engine.DeadlineDue context trigger snapshot := by
  rw [evaluate_isOptional_iff]
  constructor
  · intro none_due trigger configured written snapshot stored
    obtain ⟨other, fresh⟩ := written_fresh written
    obtain rfl : snapshot = other := Option.some.inj (stored.symm.trans fresh.stored)
    exact none_due trigger configured snapshot fresh
  · intro none_due trigger configured snapshot fresh due
    have written := firing_written configured fresh (.deadline due)
    exact none_due trigger configured written snapshot fresh.stored due

end Engine

namespace DeliveryManager

variable {manager : DeliveryManager} {request : DeliveryRequest}

theorem procedure_skips {lane : AuctionLane} (entered : manager.auction? = some lane)
    (optional : request.canOmit = true) (omits : lane.settings.omitOptional = true)
    (failure : AuctionFailure) :
    (manager.procedure request).Ends [⟨.auction lane, .error failure⟩] 0
      (.skipped (skipReason failure)) := by
  unfold procedure
  rw [entered]
  apply Activity.ends_question_bind_iff.mpr
  refine ⟨.error failure, [], rfl, ?_⟩
  simp only [optional, omits, Bool.and_self, if_true]
  exact .done _

/-- A delivery skips an update only if that can wait. -/
theorem canOmit_of_skipped {calls : Delivery.Calls} {elapsed : Millis} {reason : String}
    (ends : (manager.procedure request).Ends calls elapsed (.skipped reason)) :
    request.canOmit = true := by
  have course := procedure_course ends
  generalize same : DeliveryOutcome.skipped reason = outcome at course
  cases course with
  | omitted reason omits quiet =>
    obtain ⟨_, _, _, _, optional, _⟩ := omits
    exact optional
  | sent offered entered kept sent =>
    rename_i sent?
    cases sent? <;> cases same

end DeliveryManager

namespace Relayer

/-- An update is skipped only when nothing is due. A decision is optional exactly where no feed that
it writes has a passed heartbeat or a schedule that fired; and where an iteration ends with a skipped
update, no configured feed with newer packages has. -/
theorem iterate_skipped :
    (∀ (engine : Engine) (context : IterationContext),
      (engine.evaluate context).1.isOptional = true ↔
        ∀ trigger ∈ engine.triggers.triggers,
          trigger.feed ∈ (engine.evaluate context).1.feeds → ∀ snapshot,
            context.contract.find? trigger.feed = some snapshot →
              ¬engine.DeadlineDue context trigger snapshot) ∧
    ∀ (relayer : Relayer) (trace : List (Exchange world)) (elapsed : Millis) (reason : String),
      relayer.iterate.Ends trace elapsed (.ok (.updated (.skipped reason))) →
        ∃ (opening : List (Exchange world)) (course : relayer.UpdateCourse),
          trace = opening ++ course.trace ∧ course.outcome = .skipped reason ∧
          ∀ trigger ∈ relayer.engine.triggers.triggers, ∀ snapshot,
            course.context.Fresh trigger.feed snapshot →
              ¬relayer.engine.DeadlineDue course.context trigger snapshot := by
  refine ⟨fun engine context => Engine.evaluate_isOptional_iff_written, ?_⟩
  intro relayer trace elapsed reason ends
  obtain ⟨opening, course, same, skipped⟩ := iterate_updated ends
  refine ⟨opening, course, same, skipped, ?_⟩
  obtain ⟨spent, delivers⟩ := course.delivers
  rw [skipped] at delivers
  have optional : course.decision.isOptional = true := DeliveryManager.canOmit_of_skipped delivers
  rw [course.decided] at optional
  exact Engine.evaluate_isOptional_iff.mp optional

def promptAdapter : Adapter :=
  { kind := .priceFeeds
    contract := FixedBytes.ofNat 20 2
    perform := fun
      | .readState .. => .done (.ok (FeedMap.ofList [("ETH", ⟨1000, 1000, 100000000⟩)]))
      | .threshold _ => .done (.ok (1 : Nat))
      | .build feeds _ _ =>
        .done (.ok ⟨FixedBytes.ofNat 20 3, FixedBytes.ofNat 20 2, [7], none, feeds, 0⟩)
      | call => Task.adapter call }

def promptNode : Rpc := ⟨fun
  | .blockNumber => .done (.ok (42 : Nat))
  | call => Task.rpc 0 call⟩

def promptLane : AuctionLane :=
  ⟨promptAdapter, promptNode, 1, ⟨1000, 1000, 1000, 10, true, true⟩⟩

/-- A relayer of one feed that is due when its price deviates by a percent, or after an hour. -/
def ofHourlyFeed : Relayer :=
  { fetcher := { adapter := promptAdapter, rpc := promptNode, feeds := ["ETH"], service := "main" }
    engine :=
      { triggers := ⟨[{ feed := "ETH", deviation? := some 1.0, heartbeat? := some 3600000 }], none⟩ }
    delivery := ⟨promptAdapter, promptNode, ⟨1, 0, 0, 0⟩, some promptLane⟩ }

def doubledAt (timestamp : Millis) : PackageSet :=
  FeedMap.ofList [("ETH", [⟨"ETH", timestamp, FixedBytes.ofNat 20 1,
    [{ feed := "ETH", value := 2.0 }], List.replicate 65 1⟩])]

def fetchedOfHourlyFeed : Fetched :=
  { block := 42
    now := 3000
    threshold := 1
    contract := FeedMap.ofList [("ETH", ⟨1000, 1000, 100000000⟩)]
    packages := doubledAt 2000 }

theorem ofHourlyFeed_updates :
    (fetchedOfHourlyFeed.decisionWith ofHourlyFeed.engine none).shouldUpdate = true ∧
      (fetchedOfHourlyFeed.decisionWith ofHourlyFeed.engine none).isOptional = true := by
  let context := fetchedOfHourlyFeed.contextWith none
  let trigger : Trigger := { feed := "ETH", deviation? := some 1.0, heartbeat? := some 3600000 }
  have fresh : context.Fresh trigger.feed ⟨1000, 1000, 100000000⟩ :=
    ⟨by decide, by decide, by decide⟩
  have deviates : ofHourlyFeed.engine.DeviationDue context trigger.feed 1.0
      ⟨1000, 1000, 100000000⟩ := by
    refine ⟨by decide +kernel, ?_, by decide⟩
    intro active
    cases active
  constructor
  · have written := Engine.firing_written List.mem_cons_self fresh (.deviation 1.0 rfl deviates)
    unfold Decision.shouldUpdate
    rw [Bool.not_eq_true', List.isEmpty_eq_false_iff]
    exact List.ne_nil_of_mem written
  · apply Engine.evaluate_isOptional_iff.mpr
    intro other configured snapshot stored due
    obtain rfl : other = trigger := List.mem_singleton.mp configured
    obtain rfl := fresh.unique stored
    rcases Engine.deadlineDue_iff.mp due with ⟨interval, passed⟩ | fired
    · cases passed.configured
      cases passed.passed
    · cases fired

def refusing : Host world Unit where
  answer question _ := (match question with
    | .rpc _ _ => ⟨0, .error .transport⟩
    | .packages .. => ⟨0, .error .transport⟩
    | .bids .. => ⟨0, .error .transport⟩
    | .adapter _ => ⟨0, .error .transport⟩
    | .submit _ => ⟨0, .error .transport⟩
    | .sign _ => ⟨0, .error .transport⟩
    | .age _ => (0 : Nat)
    | .ping => ⟨0, .error .transport⟩
    | .fetch _ => ⟨0, .error .transport⟩
    | .clock => (0 : Nat)
    | .note _ => (), ())

def promptCall : UpdateCall :=
  ⟨FixedBytes.ofNat 20 3, FixedBytes.ofNat 20 2, [7], none, ["ETH"], 0⟩

theorem promptLane_loses : ∃ trace elapsed failure,
    (promptLane.run promptCall (doubledAt 2000) 3000 42).Ends trace elapsed (.error failure) := by
  let auction := promptLane.run promptCall (doubledAt 2000) 3000 42
  have lost : (auction.run refusing ()).result.toBool = false := by decide +kernel
  have ends := Activity.run_ends refusing auction ()
  cases result : (auction.run refusing ()).result with
  | ok win =>
    rw [result] at lost
    cases lost
  | error failure =>
    rw [result] at ends
    exact ⟨_, _, failure, ends⟩

/-- The auction is lost, and the update is skipped long before the hour has passed. -/
theorem iterate_skipped_hourlyFeed :
    ∃ trace elapsed reason,
      ofHourlyFeed.iterate.Ends trace elapsed (.ok (.updated (.skipped reason))) ∧
      ∃ (opening : List (Exchange world)) (course : ofHourlyFeed.UpdateCourse),
        trace = opening ++ course.trace ∧ course.outcome = .skipped reason ∧
        ∀ trigger ∈ ofHourlyFeed.engine.triggers.triggers, ∀ snapshot,
          course.context.Fresh trigger.feed snapshot →
            ¬ofHourlyFeed.engine.DeadlineDue course.context trigger snapshot := by
  obtain ⟨updates, optional⟩ := ofHourlyFeed_updates
  obtain ⟨auction, _, failure, lost⟩ := promptLane_loses
  have delivers (decision : Decision) (optional : decision.isOptional = true) :
      (ofHourlyFeed.delivery.procedure
        (ofHourlyFeed.toDeliver fetchedOfHourlyFeed decision promptCall)).Ends
          [⟨.auction promptLane, .error failure⟩] 0
          (.skipped (DeliveryManager.skipReason failure)) :=
    DeliveryManager.procedure_skips rfl optional rfl failure
  let course : ofHourlyFeed.UpdateCourse :=
    { fetched := fetchedOfHourlyFeed
      answer := none
      call := promptCall
      calls := [⟨.auction promptLane, .error failure⟩]
      outcome := .skipped (DeliveryManager.skipReason failure)
      fetching := _
      deciding := []
      building := []
      delivering := auction ++ []
      decision := fetchedOfHourlyFeed.decisionWith ofHourlyFeed.engine none
      fetches := ⟨0, Fetcher.fetch_atOnce rfl rfl rfl (doubledAt 2000) 3000⟩
      decides := ⟨0, Fetched.decide_atOnce rfl _⟩
      decided := rfl
      updates
      builds := ⟨0, .done _⟩
      delivers := ⟨0, delivers _ optional⟩
      served := .cons lost .nil }
  obtain ⟨elapsed, ends⟩ := course.ends
  exact ⟨course.trace, elapsed, _, ends, iterate_skipped.2 ofHourlyFeed _ _ _ ends⟩

end Relayer

end PriceRelay
