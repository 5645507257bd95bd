import PriceRelay.Config.Validation
import PriceRelay.Proofs.Number.Order
import PriceRelay.Proofs.Successes
/-!
The rules of a configuration in the order in which they are checked. Validation reports the first
rule that is broken, and succeeds where none is.
-/

namespace PriceRelay

namespace AdapterKind

theorem ofName?_eq_some_iff {text : String} {kind : AdapterKind} :
    ofName? text = some kind ↔ Text.lowerCase text = kind.name := by
  unfold ofName?
  constructor
  · intro named
    split at named
    · cases named
      assumption
    · cases named
      assumption
    · cases named
  · intro named
    rw [named]
    cases kind <;> rfl

end AdapterKind

namespace CronSchedule

theorem read_cases (expression : String) :
    let count := wordCount expression.toList
    ¬(5 ≤ count ∧ count ≤ 7) ∧ read expression = .error (.fieldCount count) ∨
      (5 ≤ count ∧ count ≤ 7) ∧ (read expression = .error .malformed ∨
        ∃ schedule, read expression = .ok schedule) := by
  intro count
  have outside : (decide (count < 5) || decide (7 < count)) = true ↔ ¬(5 ≤ count ∧ count ≤ 7) := by
    simp only [Bool.or_eq_true, decide_eq_true_eq]
    omega
  unfold read
  by_cases counted : 5 ≤ count ∧ count ≤ 7
  · refine .inr ⟨counted, ?_⟩
    dsimp only
    rw [if_neg (mt outside.mp (not_not.mpr counted))]
    generalize Cron.Schedule.read? _ = reads
    cases reads with
    | some schedule => exact .inr ⟨_, rfl⟩
    | none => exact .inl rfl
  · exact .inl ⟨counted, if_pos (outside.mpr counted)⟩

end CronSchedule

namespace Config

/-- What has to hold, and what is reported where it does not. -/
structure Rule where
  Met : Prop
  error : ConfigError

/-- The error is the one of the first rule that is not met. -/
inductive FirstBroken : List Rule → ConfigError → Prop where
  | here {rule : Rule} {rest : List Rule} (broken : ¬rule.Met) :
      FirstBroken (rule :: rest) rule.error
  | later {rule : Rule} {rest : List Rule} {error : ConfigError} (met : rule.Met)
      (broken : FirstBroken rest error) : FirstBroken (rule :: rest) error

section FirstBroken

variable {rule : Rule} {rules more : List Rule} {error : ConfigError}

theorem not_firstBroken_nil : ¬FirstBroken [] error := by
  intro broken
  cases broken

theorem firstBroken_cons_of_met (met : rule.Met) :
    FirstBroken (rule :: rules) error ↔ FirstBroken rules error := by
  constructor
  · intro broken
    cases broken with
    | here broken => exact absurd met broken
    | later _ broken => exact broken
  · exact FirstBroken.later met

theorem firstBroken_cons_of_broken (broken : ¬rule.Met) :
    FirstBroken (rule :: rules) error ↔ rule.error = error := by
  constructor
  · intro first
    cases first with
    | here _ => rfl
    | later met _ => exact absurd met broken
  · rintro rfl
    exact .here broken

theorem firstBroken_append : FirstBroken (rules ++ more) error ↔
    FirstBroken rules error ∨ (∀ rule ∈ rules, rule.Met) ∧ FirstBroken more error := by
  induction rules with
  | nil => simp [not_firstBroken_nil]
  | cons rule rules ih =>
    rw [List.cons_append, List.forall_mem_cons]
    by_cases met : rule.Met
    · simp only [firstBroken_cons_of_met met, ih, met, true_and]
    · simp only [firstBroken_cons_of_broken met, met, false_and, or_false]

theorem exists_firstBroken_iff :
    (∃ error, FirstBroken rules error) ↔ ¬∀ rule ∈ rules, rule.Met := by
  induction rules with
  | nil => simp [not_firstBroken_nil]
  | cons rule rules ih =>
    rw [List.forall_mem_cons]
    by_cases met : rule.Met
    · simp only [firstBroken_cons_of_met met, ih, met, true_and]
    · simp only [firstBroken_cons_of_broken met, met, false_and, not_false_iff, exists_eq']

end FirstBroken

/-- A check enforces rules where it fails with the error of the first broken one. -/
def Enforces {α : Type} (check : Except ConfigError α) (rules : List Rule) : Prop :=
  ∀ error, check = .error error ↔ FirstBroken rules error

namespace Enforces

variable {α β : Type} {check : Except ConfigError α} {rules more : List Rule}

theorem accepts_iff (enforces : Enforces check rules) :
    (∃ result, check = .ok result) ↔ ∀ rule ∈ rules, rule.Met := by
  rw [← not_iff_not, ← exists_error_iff, ← exists_firstBroken_iff]
  exact exists_congr enforces

theorem nothing {result : α} : Enforces (.ok result) [] := by
  intro error
  simp [not_firstBroken_nil]

theorem ofRequire {rule : Bool} {Met : Prop} {error : ConfigError} (same : rule = true ↔ Met) :
    Enforces (require rule error) [⟨Met, error⟩] := by
  intro other
  by_cases met : Met
  · rw [firstBroken_cons_of_met met, require, if_pos (same.mpr met)]
    simp [not_firstBroken_nil]
  · rw [firstBroken_cons_of_broken met, require, if_neg (mt same.mp met), Except.error.injEq]

/-- What is checked later is reported where the rules in front are met. -/
theorem andThen {next : α → Except ConfigError β} (first : Enforces check rules)
    (second : ∀ result, Enforces (next result) more) :
    Enforces (check >>= next) (rules ++ more) := by
  intro error
  rw [firstBroken_append, ← first error, ← first.accepts_iff]
  cases check with
  | error failure => simp [bind, Except.bind]
  | ok result => simpa [bind, Except.bind] using second result error

theorem behindRequire {rule : Bool} {Met : Prop} {error : ConfigError} (same : rule = true ↔ Met)
    {next : Unit → Except ConfigError β} (rest : Enforces (next ()) more) :
    Enforces (require rule error >>= next) (⟨Met, error⟩ :: more) :=
  (ofRequire same).andThen fun _ => rest

end Enforces

/-! The rules in the order in which they are checked. -/

/-- An expression has the words of a schedule, and they can be read as one. -/
def cronRules (expression : String) : List Rule :=
  let count := CronSchedule.wordCount expression.toList
  [⟨5 ≤ count ∧ count ≤ 7, .invalidCron expression (.fieldCount count)⟩,
   ⟨∃ schedule, CronSchedule.read expression = .ok schedule, .invalidCron expression .malformed⟩]

/-- The rules of one feed, behind the feeds of the given ids. -/
def Feed.rules (earlier : List FeedId) (feed : Feed) : List Rule :=
  [⟨feed.id ∉ earlier, .duplicateFeed feed.id⟩,
   ⟨(Utf8.encode feed.id).length ≤ 31, .feedIdTooLong feed.id⟩,
   ⟨feed.deviation? ≠ none ∨ feed.heartbeat? ≠ none ∨ feed.cron ≠ [], .noTriggers feed.id⟩]
  ++ (feed.deviation?.toList.map fun value =>
    ⟨value.isFinite = true ∧ 0.0 < value, .invalidDeviation feed.id value⟩)
  ++ feed.cron.flatMap cronRules

def rulesOfFeeds (earlier : List FeedId) : List Feed → List Rule
  | [] => []
  | feed :: rest => feed.rules earlier ++ rulesOfFeeds (feed.id :: earlier) rest

def rules (config : Config) : List Rule :=
  [⟨config.chain.rpcUrls ≠ [], .noRpcUrls⟩,
   ⟨config.gatewayUrls ≠ [], .noGatewayUrls⟩,
   ⟨config.feeds ≠ [], .noFeeds⟩,
   ⟨∃ kind : AdapterKind, Text.lowerCase config.adapter.kind = kind.name,
    .unsupportedAdapter config.adapter.kind⟩]
  ++ rulesOfFeeds [] config.feeds
  ++ (config.activeAuction?.toList.map fun auction =>
    ⟨∃ url, auction.url? = some url ∧ url ≠ "", .missingAuctionUrl⟩)
  ++ [⟨0 < config.interval, .invalidValue "iteration_interval_ms" "must be positive"⟩,
   ⟨0 < config.maxAttempts,
    .invalidValue "delivery.max_tx_send_attempts" "must be at least 1"⟩]
  ++ (config.optimization.threshold?.toList.map fun threshold =>
    ⟨threshold.isFinite = true ∧ 0.0 ≤ threshold,
      .invalidValue "optimization.additional_updates_deviation_threshold"
        s!"{Number.display threshold} is not a non-negative ratio"⟩)
  ++ [⟨config.chain.gas.multiplier.isFinite = true ∧ 0.0 < config.chain.gas.multiplier,
    .invalidValue "chain.gas.gas_multiplier" "must be positive"⟩]

section Values

variable {value : Float}

theorem isPositive_iff : isPositive value = true ↔ value.isFinite = true ∧ 0.0 < value := by
  rw [isPositive, Bool.and_eq_true, decide_eq_true_iff]

theorem isNonNegative_iff : isNonNegative value = true ↔ value.isFinite = true ∧ 0.0 ≤ value := by
  rw [isNonNegative, Bool.and_eq_true, Bool.not_eq_true', decide_eq_false_iff_not]
  refine and_congr_right fun finite => ?_
  constructor
  · exact Binary.le_of_not_lt (Number.isNaN_of_isFinite finite) Number.isNaN_zero
  · intro least less
    rw [Binary.le_iff_compare, Binary.compare_swap value.toModel.unpack,
      Binary.lt_iff_compare.mp less] at least
    cases least

end Values

section Enforced

variable {config : Config} {feed : Feed} {expression : String}

theorem adapterKind_enforces : Enforces config.adapterKind
    [⟨∃ kind : AdapterKind, Text.lowerCase config.adapter.kind = kind.name,
      .unsupportedAdapter config.adapter.kind⟩] := by
  intro error
  simp only [adapterKind, ← AdapterKind.ofName?_eq_some_iff]
  cases AdapterKind.ofName? config.adapter.kind with
  | none => rw [firstBroken_cons_of_broken (by simp), Except.error.injEq]
  | some kind =>
    rw [firstBroken_cons_of_met (by simp)]
    simp [not_firstBroken_nil]

theorem readSchedule_enforces : Enforces (readSchedule expression) (cronRules expression) := by
  intro error
  unfold cronRules readSchedule
  obtain ⟨miscounted, reads⟩ | ⟨counted, reads | readable⟩ := CronSchedule.read_cases expression
  · rw [firstBroken_cons_of_broken miscounted, reads, Except.mapError, Except.error.injEq]
  · rw [firstBroken_cons_of_met counted, firstBroken_cons_of_broken (by simp [reads]), reads,
      Except.mapError, Except.error.injEq]
  · rw [firstBroken_cons_of_met counted, firstBroken_cons_of_met readable]
    obtain ⟨schedule, reads⟩ := readable
    simp [reads, Except.mapError, not_firstBroken_nil]

theorem checkSchedules_enforces {expressions : List String} :
    Enforces (checkSchedules expressions) (expressions.flatMap cronRules) := by
  induction expressions with
  | nil => exact .nothing
  | cons expression rest ih => exact readSchedule_enforces.andThen fun _ => ih

theorem checkDeviation_enforces : Enforces (checkDeviation feed)
    (feed.deviation?.toList.map fun value =>
      ⟨value.isFinite = true ∧ 0.0 < value, .invalidDeviation feed.id value⟩) := by
  unfold checkDeviation
  cases feed.deviation? with
  | none => exact .nothing
  | some value => exact .ofRequire isPositive_iff

theorem checkFeed_enforces {seen : List FeedId} :
    Enforces (checkFeed seen feed) (feed.rules seen) := by
  have triggered : feed.hasTriggers = true ↔
      feed.deviation? ≠ none ∨ feed.heartbeat? ≠ none ∨ feed.cron ≠ [] := by
    simp [Feed.hasTriggers, Option.isSome_iff_ne_none, or_assoc]
  simp only [Feed.rules, List.cons_append, List.nil_append]
  refine .behindRequire (by simp) ?_
  refine .behindRequire decide_eq_true_iff ?_
  refine .behindRequire triggered ?_
  exact checkDeviation_enforces.andThen fun _ => checkSchedules_enforces

theorem checkFeeds_enforces {seen : List FeedId} {feeds : List Feed} :
    Enforces (checkFeeds seen feeds) (rulesOfFeeds seen feeds) := by
  induction feeds generalizing seen with
  | nil => exact .nothing
  | cons feed rest ih => exact checkFeed_enforces.andThen fun _ => ih

theorem checkAuction_enforces : Enforces (checkAuction config)
    (config.activeAuction?.toList.map fun auction =>
      ⟨∃ url, auction.url? = some url ∧ url ≠ "", .missingAuctionUrl⟩) := by
  unfold checkAuction
  cases config.activeAuction? with
  | none => exact .nothing
  | some auction =>
    refine .ofRequire ?_
    cases auction.url? <;> simp

theorem checkThreshold_enforces : Enforces (checkThreshold config)
    (config.optimization.threshold?.toList.map fun threshold =>
      ⟨threshold.isFinite = true ∧ 0.0 ≤ threshold,
        .invalidValue "optimization.additional_updates_deviation_threshold"
          s!"{Number.display threshold} is not a non-negative ratio"⟩) := by
  unfold checkThreshold
  cases config.optimization.threshold? with
  | none => exact .nothing
  | some threshold => exact .ofRequire isNonNegative_iff

theorem validate_enforces : Enforces config.validate config.rules := by
  have nonempty {α : Type} {items : List α} : (!items.isEmpty) = true ↔ items ≠ [] := by simp
  have positive {count : Nat} : decide (count ≠ 0) = true ↔ 0 < count := by
    rw [decide_eq_true_iff, Nat.pos_iff_ne_zero]
  simp only [rules, List.append_assoc, List.cons_append, List.nil_append]
  refine .behindRequire nonempty ?_
  refine .behindRequire nonempty ?_
  refine .behindRequire nonempty ?_
  refine adapterKind_enforces.andThen fun _ => ?_
  refine checkFeeds_enforces.andThen fun _ => ?_
  refine checkAuction_enforces.andThen fun _ => ?_
  refine .behindRequire positive ?_
  refine .behindRequire positive ?_
  exact checkThreshold_enforces.andThen fun _ => .ofRequire isPositive_iff

end Enforced

end Config

end PriceRelay
