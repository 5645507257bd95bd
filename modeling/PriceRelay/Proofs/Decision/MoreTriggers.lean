import PriceRelay.Proofs.Decision.Written
/-!
More triggers for the same feeds never take a feed or a deadline away from a decision.
-/

namespace PriceRelay

/-- A trigger has everything that another one of its feed has, and perhaps more. -/
structure Trigger.Within (trigger larger : Trigger) : Prop where
  feed : larger.feed = trigger.feed
  heartbeat : ∀ interval, trigger.heartbeat? = some interval → larger.heartbeat? = some interval
  deviation : ∀ threshold, trigger.deviation? = some threshold →
    larger.deviation? = some threshold
  schedules : trigger.schedules ⊆ larger.schedules

theorem Trigger.map_feed_of_within {triggers larger : List Trigger}
    (within : List.Forall₂ Trigger.Within triggers larger) :
    larger.map (·.feed) = triggers.map (·.feed) := by
  induction within with
  | nil => rfl
  | cons first _ ih => rw [List.map_cons, List.map_cons, first.feed, ih]

theorem Trigger.exists_larger {triggers larger : List Trigger}
    (within : List.Forall₂ Trigger.Within triggers larger) {trigger : Trigger}
    (member : trigger ∈ triggers) : ∃ other ∈ larger, trigger.Within other := by
  induction within with
  | nil => cases member
  | cons first _ ih =>
    rcases List.mem_cons.mp member with rfl | later
    · exact ⟨_, List.mem_cons_self, first⟩
    · obtain ⟨other, present, within⟩ := ih later
      exact ⟨other, List.mem_cons_of_mem _ present, within⟩

namespace Engine

def withTriggers (engine : Engine) (triggers : List Trigger) : Engine :=
  { engine with triggers := { engine.triggers with triggers } }

section

variable {engine : Engine} {context : IterationContext} {triggers : List Trigger}
  {trigger larger : Trigger}

theorem heartbeat?_withTriggers (within : trigger.Within larger) {now interval : Millis}
    (configured : engine.triggers.heartbeat? trigger now = some interval) :
    (engine.withTriggers triggers).triggers.heartbeat? larger now = some interval := by
  cases own : trigger.heartbeat? with
  | none => simp [TriggerSet.heartbeat?, own] at configured
  | some heartbeat =>
    rw [← configured]
    simp [TriggerSet.heartbeat?, withTriggers, own, within.heartbeat heartbeat own]

theorem counterpart_of_within (within : trigger.Within larger) :
    engine.Counterpart (engine.withTriggers triggers) context trigger larger where
  feed := within.feed
  heartbeat := fun _ configured => heartbeat?_withTriggers within configured
  heartbeatDue := fun _ _ due => ⟨heartbeat?_withTriggers within due.configured, due.passed⟩
  scheduleDue := by
    intro snapshot due
    obtain ⟨schedule, member, fired⟩ := List.any_eq_true.mp due
    exact List.any_eq_true.mpr ⟨schedule, within.schedules member, fired⟩
  deviationDue := by
    intro snapshot threshold configured due
    rw [within.feed]
    exact ⟨within.deviation threshold configured, due.latest, due.past, due.seldom⟩
  ratio := by
    intro _ snapshot ratio recorded
    obtain ⟨threshold, configured, compared⟩ := Option.bind_eq_some_iff.mp recorded
    apply Option.bind_eq_some_iff.mpr
    refine ⟨threshold, within.deviation threshold configured, ?_⟩
    rw [within.feed]
    exact compared

end

/-- Where every feed keeps its triggers and perhaps has more, a decision keeps its feeds and its
deadline. -/
theorem evaluate_mono_triggers (engine : Engine) (context : IterationContext)
    (triggers : List Trigger) (distinct : engine.triggers.feeds.Nodup)
    (within : List.Forall₂ Trigger.Within engine.triggers.triggers triggers) :
    let more := engine.withTriggers triggers
    (∀ feed ∈ (engine.evaluate context).1.feeds, feed ∈ (more.evaluate context).1.feeds) ∧
    ((engine.evaluate context).1.hardDeadline = true →
      (more.evaluate context).1.hardDeadline = true) := by
  intro more
  have sameFeeds : more.triggers.feeds = engine.triggers.feeds :=
    Trigger.map_feed_of_within within
  have larger : engine.Extends more context := by
    refine ⟨rfl, fun trigger configured => ?_⟩
    obtain ⟨other, present, kept⟩ := Trigger.exists_larger within configured
    exact ⟨other, present, counterpart_of_within kept⟩
  constructor
  · intro feed written
    rw [mem_evaluate_iff distinct] at written
    rw [mem_evaluate_iff (sameFeeds ▸ distinct)]
    exact written.mono larger
  · exact larger.hardDeadline

/-- A feed that is written for its heartbeat is also written where it has a deviation to watch and
the other feed has a heartbeat of its own. -/
theorem evaluate_mono_triggers_of_two :
    let engine : Engine := {
      triggers := ⟨[{ feed := "ETH", heartbeat? := some 1000 }, { feed := "BTC" }], none⟩
      optimization := { threshold? := some 0.5, syncHeartbeats := true } }
    let triggers : List Trigger :=
      [{ feed := "ETH", heartbeat? := some 1000, deviation? := some 1.0 },
        { feed := "BTC", heartbeat? := some 500 }]
    let package (feed : FeedId) : Package :=
      ⟨feed, 2000, FixedBytes.ofNat 20 1, [{ feed, value := 1.0 }], []⟩
    let context : IterationContext := {
      block := 1
      now := 3000
      contract := FeedMap.ofList [("BTC", ⟨1000, 1000, 1⟩), ("ETH", ⟨1000, 1000, 1⟩)]
      packages := FeedMap.ofList [("BTC", [package "BTC"]), ("ETH", [package "ETH"])] }
    engine.triggers.feeds.Nodup ∧
      List.Forall₂ Trigger.Within engine.triggers.triggers triggers ∧
      "ETH" ∈ (engine.evaluate context).1.feeds ∧
      "ETH" ∈ ((engine.withTriggers triggers).evaluate context).1.feeds := by
  intro engine triggers package context
  have distinct : engine.triggers.feeds.Nodup := by decide
  have within : List.Forall₂ Trigger.Within engine.triggers.triggers triggers := by
    refine .cons ⟨rfl, ?_, nofun, fun _ member => member⟩
      (.cons ⟨rfl, nofun, nofun, fun _ member => member⟩ .nil)
    intro interval configured
    exact configured
  have fresh : context.Fresh "ETH" ⟨1000, 1000, 1⟩ := ⟨by decide, by decide, by decide⟩
  have fires : engine.Fires context { feed := "ETH", heartbeat? := some 1000 } ⟨1000, 1000, 1⟩ :=
    .deadline (.heartbeat 1000 rfl (by decide))
  have written : "ETH" ∈ (engine.evaluate context).1.feeds :=
    firing_written (by simp [engine]) fresh fires
  obtain ⟨kept, _⟩ := evaluate_mono_triggers engine context triggers distinct within
  exact ⟨distinct, within, written, kept "ETH" written⟩

end Engine

end PriceRelay
