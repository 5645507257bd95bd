import PriceRelay.Config.Loading
import PriceRelay.Delivery.Settings
import PriceRelay.Proofs.Config.Rules
import PriceRelay.Proofs.Config.Slots
import PriceRelay.Proofs.Payload.RoundTrip
/-!
Accepted configurations: those whose rules are all met, so that whatever is built of them can be
built.
-/

namespace PriceRelay

namespace Config

/-- What is asked of a feed by itself. -/
structure Feed.Sound (feed : Feed) : Prop where
  fits : (Utf8.encode feed.id).length ≤ 31
  triggered : feed.deviation? ≠ none ∨ feed.heartbeat? ≠ none ∨ feed.cron ≠ []
  deviation : ∀ value, feed.deviation? = some value → value.isFinite = true ∧ 0.0 < value
  cron : ∀ expression ∈ feed.cron, ∃ schedule, CronSchedule.read expression = .ok schedule

/-- What is asked of a configuration. -/
structure Sound (config : Config) : Prop where
  nodes : config.chain.rpcUrls ≠ []
  gateways : config.gatewayUrls ≠ []
  nonempty : config.feeds ≠ []
  adapter : ∃ kind : AdapterKind, Text.lowerCase config.adapter.kind = kind.name
  distinct : config.feedIds.Nodup
  feeds : ∀ feed ∈ config.feeds, feed.Sound
  auction : ∀ auction, config.auction? = some auction → auction.enabled = true →
    ∃ url, auction.url? = some url ∧ url ≠ ""
  interval : 0 < config.interval
  attempts : 0 < config.maxAttempts
  threshold : ∀ threshold, config.optimization.threshold? = some threshold →
    threshold.isFinite = true ∧ 0.0 ≤ threshold
  multiplier : config.chain.gas.multiplier.isFinite = true ∧ 0.0 < config.chain.gas.multiplier

section Sound

variable {config : Config} {feed : Feed}

theorem cronRules_met_iff {expression : String} : (∀ rule ∈ cronRules expression, rule.Met) ↔
    ∃ schedule, CronSchedule.read expression = .ok schedule := by
  rw [← readSchedule_enforces.accepts_iff]
  simp only [readSchedule, mapError_ok_iff]

theorem optional_met_iff {α : Type} {value? : Option α} {ruleOf : α → Rule} :
    (∀ rule ∈ value?.toList.map ruleOf, rule.Met) ↔
      ∀ value, value? = some value → (ruleOf value).Met := by
  rw [List.forall_mem_map]
  simp only [Option.mem_toList]

theorem feedRules_met_iff {earlier : List FeedId} :
    (∀ rule ∈ feed.rules earlier, rule.Met) ↔ feed.id ∉ earlier ∧ feed.Sound := by
  have schedules : (∀ rule ∈ feed.cron.flatMap cronRules, rule.Met) ↔
      ∀ expression ∈ feed.cron, ∃ schedule, CronSchedule.read expression = .ok schedule := by
    simp only [← cronRules_met_iff, List.forall_mem_flatMap]
  simp only [Feed.rules, List.forall_mem_append, List.forall_mem_cons, schedules, optional_met_iff,
    List.not_mem_nil, IsEmpty.forall_iff, implies_true, and_true]
  constructor
  · rintro ⟨⟨⟨new, fits, triggered⟩, deviation⟩, cron⟩
    exact ⟨new, fits, triggered, deviation, cron⟩
  · rintro ⟨new, fits, triggered, deviation, cron⟩
    exact ⟨⟨⟨new, fits, triggered⟩, deviation⟩, cron⟩

theorem rulesOfFeeds_met_iff {earlier : List FeedId} {feeds : List Feed} :
    (∀ rule ∈ rulesOfFeeds earlier feeds, rule.Met) ↔
      (feeds.map (·.id)).Nodup ∧ (feeds.map (·.id)).Disjoint earlier ∧
        ∀ feed ∈ feeds, feed.Sound := by
  induction feeds generalizing earlier with
  | nil => simp [rulesOfFeeds]
  | cons feed rest ih =>
    rw [rulesOfFeeds, List.forall_mem_append, feedRules_met_iff, ih, List.map_cons,
      List.nodup_cons, List.disjoint_cons_left, List.disjoint_cons_right, List.forall_mem_cons]
    constructor
    · rintro ⟨⟨new, sound⟩, distinct, ⟨unlike, apart⟩, others⟩
      exact ⟨⟨unlike, distinct⟩, ⟨new, apart⟩, sound, others⟩
    · rintro ⟨⟨unlike, distinct⟩, ⟨new, apart⟩, sound, others⟩
      exact ⟨⟨new, sound⟩, distinct, ⟨unlike, apart⟩, others⟩

theorem rules_met_iff : (∀ rule ∈ config.rules, rule.Met) ↔ config.Sound := by
  simp only [rules, List.forall_mem_append, List.forall_mem_cons, optional_met_iff,
    rulesOfFeeds_met_iff, activeAuction?, Option.filter_eq_some_iff, and_imp, List.not_mem_nil,
    IsEmpty.forall_iff, implies_true, and_true]
  constructor
  · rintro ⟨⟨⟨⟨⟨⟨nodes, gateways, nonempty, adapter⟩, distinct, -, feeds⟩, auction⟩, interval,
      attempts⟩, threshold⟩, multiplier⟩
    exact ⟨nodes, gateways, nonempty, adapter, distinct, feeds, auction, interval, attempts,
      threshold, multiplier⟩
  · intro sound
    exact ⟨⟨⟨⟨⟨⟨sound.nodes, sound.gateways, sound.nonempty, sound.adapter⟩, sound.distinct,
      List.disjoint_nil_right _, sound.feeds⟩, sound.auction⟩, sound.interval, sound.attempts⟩,
      sound.threshold⟩, sound.multiplier⟩

/-- Validation accepts what is sound. -/
theorem validate_ok_iff : config.validate = .ok () ↔ config.Sound := by
  rw [← rules_met_iff, ← validate_enforces.accepts_iff]
  constructor
  · intro accepted
    exact ⟨(), accepted⟩
  · rintro ⟨⟨⟩, accepted⟩
    exact accepted

end Sound

/-! What is built of an accepted configuration. -/

/-- The trigger of a feed: its own limits, and its expressions as schedules. -/
structure TriggerOf (trigger : Trigger) (feed : Feed) : Prop where
  named : trigger.feed = feed.id
  deviation : trigger.deviation? = feed.deviation?
  heartbeat : trigger.heartbeat? = feed.heartbeat?
  schedules : List.Forall₂ (fun schedule expression => CronSchedule.read expression = .ok schedule)
    trigger.schedules feed.cron

section Built

variable {config : Config} {feed : Feed} {startedAt : Millis}

theorem adapterKind_ok_iff {kind : AdapterKind} :
    config.adapterKind = .ok kind ↔ Text.lowerCase config.adapter.kind = kind.name := by
  rw [← AdapterKind.ofName?_eq_some_iff, adapterKind]
  cases AdapterKind.ofName? config.adapter.kind <;> simp

theorem triggerOf_ok_iff {trigger : Trigger} :
    TriggerSet.triggerOf feed = .ok trigger ↔ TriggerOf trigger feed := by
  have read {schedules : List CronSchedule} : feed.cron.mapM readSchedule = .ok schedules ↔
      List.Forall₂ (fun schedule expression => CronSchedule.read expression = .ok schedule)
        schedules feed.cron := by
    simp only [mapM_ok_iff, readSchedule, mapError_ok_iff]
  rw [TriggerSet.triggerOf, bind_ok_iff]
  constructor
  · rintro ⟨schedules, success, same⟩
    cases same
    exact ⟨rfl, rfl, rfl, read.mp success⟩
  · intro built
    refine ⟨trigger.schedules, read.mpr built.schedules, ?_⟩
    rw [← built.named, ← built.deviation, ← built.heartbeat]
    rfl

theorem exists_triggerOf (sound : feed.Sound) :
    ∃ trigger, TriggerSet.triggerOf feed = .ok trigger := by
  have readable : ∃ schedules, feed.cron.mapM readSchedule = .ok schedules := by
    refine exists_mapM_ok_iff.mpr fun expression member => ?_
    obtain ⟨schedule, reads⟩ := sound.cron expression member
    exact ⟨schedule, mapError_ok_iff.mpr reads⟩
  obtain ⟨schedules, read⟩ := readable
  exact ⟨_, bind_ok_iff.mpr ⟨schedules, read, rfl⟩⟩

theorem ofConfig_of_sound (sound : config.Sound) : ∃ triggers,
    TriggerSet.ofConfig config startedAt = .ok triggers ∧ triggers.feeds = config.feedIds ∧
      List.Forall₂ TriggerOf triggers.triggers config.feeds := by
  obtain ⟨triggers, built⟩ := exists_mapM_ok_iff.mpr fun feed member =>
    exists_triggerOf (sound.feeds feed member)
  have each : List.Forall₂ TriggerOf triggers config.feeds := by
    simpa only [triggerOf_ok_iff] using mapM_ok_iff.mp built
  have named : List.Forall₂ (· = ·) (triggers.map (·.feed)) (config.feeds.map (·.id)) := by
    rw [List.forall₂_map_left_iff, List.forall₂_map_right_iff]
    exact each.imp fun _ _ built => built.named
  rw [List.forall₂_eq_eq_eq] at named
  exact ⟨_, bind_ok_iff.mpr ⟨triggers, built, rfl⟩, named, each⟩

end Built

/-- A configuration is accepted exactly where it is sound, and otherwise refused with the error of
the first rule that it breaks. Of an accepted one all that is built later can be built: the triggers
of its feeds in their order, the kind of its adapter, and the slot of each id; and the number of its
attempts is kept. -/
theorem validate_firstBroken (config : Config) :
    (config.validate = .ok () ↔ config.Sound) ∧
    (∀ error, config.validate = .error error ↔ FirstBroken config.rules error) ∧
    (config.validate = .ok () →
      (∀ startedAt, ∃ triggers, TriggerSet.ofConfig config startedAt = .ok triggers ∧
        triggers.feeds = config.feedIds ∧ List.Forall₂ TriggerOf triggers.triggers config.feeds) ∧
      (∃ kind, config.adapterKind = .ok kind) ∧
      (∀ feed ∈ config.feedIds, ∃ slot, FeedSlot.ofFeed? feed = some slot) ∧
      (DeliverySettings.ofConfig config).maxAttempts = config.maxAttempts) := by
  refine ⟨validate_ok_iff, validate_enforces, ?_⟩
  intro accepted
  have sound : config.Sound := validate_ok_iff.mp accepted
  refine ⟨fun startedAt => ofConfig_of_sound sound, ?_, ?_, Nat.max_eq_left sound.attempts⟩
  · obtain ⟨kind, named⟩ := sound.adapter
    exact ⟨kind, adapterKind_ok_iff.mpr named⟩
  · intro id member
    obtain ⟨feed, listed, rfl⟩ := List.mem_map.mp member
    exact Payload.ofFeed?_isSome_iff.mpr (sound.feeds feed listed).fits

/-- A configuration that uses every part that has a rule. -/
def scheduled : Config :=
  { listing [] with
    adapter := { kind := "Price-Feeds", contract := default }
    feeds := [
      { id := "ETH", deviation? := some 0.5, heartbeat? := some 60000 },
      { id := "BTC", cron := ["*/5 * * * *", "0 30 9 * * Mon-Fri"] }]
    auction? := some { url? := some "http://auction" }
    optimization := { threshold? := some 0.0 }
    maxAttempts := 3 }

/-- It has a feed of an unreadable schedule, and an interval of nothing. -/
def misscheduled : Config :=
  { scheduled with feeds := [{ id := "BTC", cron := ["daily"] }], interval := 0 }

/-- The one is accepted, and all that is built of it is there; of the two rules that the other
breaks the first is reported. -/
theorem validate_firstBroken_scheduled :
    scheduled.validate = .ok () ∧ scheduled.Sound ∧
    (∃ triggers, TriggerSet.ofConfig scheduled 7 = .ok triggers ∧
      triggers.feeds = ["ETH", "BTC"]) ∧
    (∀ feed ∈ ["ETH", "BTC"], ∃ slot, FeedSlot.ofFeed? feed = some slot) ∧
    (DeliverySettings.ofConfig scheduled).maxAttempts = 3 ∧
    FirstBroken misscheduled.rules (.invalidCron "daily" (.fieldCount 1)) := by
  have accepted : scheduled.validate = .ok () := by decide +kernel
  obtain ⟨sound, -, built⟩ := validate_firstBroken scheduled
  obtain ⟨triggers, -, slots, attempts⟩ := built accepted
  obtain ⟨set, made, feeds, -⟩ := triggers 7
  refine ⟨accepted, sound.mp accepted, ⟨set, made, feeds⟩, slots, attempts, ?_⟩
  exact ((validate_firstBroken misscheduled).2.1 _).mp (by decide +kernel)

end Config

end PriceRelay
