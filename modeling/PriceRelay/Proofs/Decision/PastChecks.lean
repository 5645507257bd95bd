import PriceRelay.Proofs.Decision.Recorded
import PriceRelay.Proofs.Number.Order
/-!
What past packages are for. A backup lets a deviation count that the past packages confirm, and asks
for them when the first feed needs them. The answer is kept for all feeds that follow, and so is it
that there is none.
-/

namespace PriceRelay

namespace PastPackages

/-- A source after it was asked: its answer is kept, also if it has none. -/
def asked (answer : Option PackageSet) : PastPackages :=
  { source? := some answer, kept? := some answer, requests := 1 }

@[simp] theorem get_ofAnswer (answer : Option PackageSet) :
    (ofAnswer answer).get = (answer, asked answer) := rfl

@[simp] theorem get_asked (answer : Option PackageSet) :
    (asked answer).get = (answer, asked answer) := rfl

theorem answer_ofAnswer (answer : Option PackageSet) : (ofAnswer answer).answer = answer := rfl

end PastPackages

namespace Condition

theorem largestDeviation_not_negative (observed : List Observation) :
    (largestDeviation observed).isNaN = false ∧ ¬largestDeviation observed < 0.0 := by
  have from_largest : ∀ largest : Float, largest.isNaN = false → ¬largest < 0.0 →
      (observed.foldl (fun largest observation => Number.larger largest observation.percent)
        largest).isNaN = false ∧
      ¬observed.foldl (fun largest observation => Number.larger largest observation.percent)
        largest < 0.0 := by
    induction observed with
    | nil =>
      intro largest number notNegative
      exact ⟨number, notNegative⟩
    | cons first rest ih =>
      intro largest number notNegative
      have one := @Number.larger_not_negative largest first.percent number notNegative
      exact ih (Number.larger largest first.percent) one.1 one.2
  exact from_largest 0.0 Number.isNaN_zero (by decide +kernel)

theorem deviationRatio_not_negative {largest : Float} (notNegative : ¬largest < 0.0)
    (threshold : Float) : ¬deviationRatio largest threshold < 0.0 := by
  unfold deviationRatio
  split
  · exact Binary.div_not_negative notNegative ‹_›
  · decide +kernel

theorem deviation_ratio_not_negative (feed : FeedId) (set : PackageSet) (stored : Nat)
    (threshold : Float) : ¬(deviation feed set stored threshold).ratio < 0.0 :=
  deviationRatio_not_negative (largestDeviation_not_negative _).2 threshold

end Condition

namespace Engine

/-- The deviation of a backup: the latest packages show it, past packages were there and confirm it,
and the last update is old enough. -/
structure DeviationConfirmed (engine : Engine) (context : IterationContext)
    (answer : Option PackageSet) (feed : FeedId) (threshold : Float) (snapshot : Snapshot) :
    Prop where
  latest : (Condition.deviation feed context.packages snapshot.value threshold).fires = true
  past : ∃ packages, answer = some packages ∧
    (Condition.deviation feed packages snapshot.value threshold).fires = true
  seldom : engine.fallback.skipFrequent = true →
    engine.fallback.offset ≤ context.now - snapshot.blockTimestamp

/-- The ratios that are evaluated for a deviation: that of the latest packages, and where past
packages are consulted and there, theirs too. -/
def evaluatedRatios (engine : Engine) (context : IterationContext) (answer : Option PackageSet)
    (feed : FeedId) (threshold : Float) (snapshot : Snapshot) : List Float :=
  let latest := Condition.deviation feed context.packages snapshot.value threshold
  latest.ratio ::
    if Condition.needsPast latest engine.fallback then
      (answer.map fun packages =>
        (Condition.deviation feed packages snapshot.value threshold).ratio).toList
    else []

/-- The review of a trigger consults past packages: its feed is watched for a deviation in a backup,
and the latest packages show one, or the backup always looks. -/
def Consults (engine : Engine) (context : IterationContext) (trigger : Trigger) : Prop :=
  ∃ snapshot, context.Observed trigger.feed snapshot ∧
    ∃ threshold, trigger.deviation? = some threshold ∧
      Condition.needsPast (Condition.deviation trigger.feed context.packages snapshot.value
        threshold) engine.fallback = true

variable {engine : Engine} {context : IterationContext} {answer : Option PackageSet}
  {trigger : Trigger} {snapshot : Snapshot}

theorem deviationDue_iff_confirmed (source : context.past = .ofAnswer answer)
    (active : engine.fallback.isActive = true) {feed : FeedId} {threshold : Float} :
    engine.DeviationDue context feed threshold snapshot ↔
      engine.DeviationConfirmed context answer feed threshold snapshot := by
  have known : context.past.answer = answer := by rw [source, PastPackages.answer_ofAnswer]
  have seldom : Condition.tooFrequent engine.fallback snapshot.blockTimestamp context.now = false ↔
      (engine.fallback.skipFrequent = true →
        engine.fallback.offset ≤ context.now - snapshot.blockTimestamp) := by
    simp [Condition.tooFrequent, active]
  constructor
  · intro due
    exact ⟨due.latest, known ▸ due.past active, seldom.mp due.seldom⟩
  · intro confirmed
    exact ⟨confirmed.latest, fun _ => known ▸ confirmed.past, seldom.mpr confirmed.seldom⟩

theorem ratio?_isLargest (source : context.past = .ofAnswer answer) {ratio : Float}
    (recorded : engine.ratio? context trigger snapshot = some ratio) :
    ∃ threshold, trigger.deviation? = some threshold ∧ Number.IsLargest
      (engine.evaluatedRatios context answer trigger.feed threshold snapshot) ratio := by
  obtain ⟨threshold, configured, checked⟩ := Option.bind_eq_some_iff.mp recorded
  refine ⟨threshold, configured, ?_⟩
  have known : context.past.answer = answer := by rw [source, PastPackages.answer_ofAnswer]
  have notNegative := Condition.deviation_ratio_not_negative trigger.feed context.packages
    snapshot.value threshold
  unfold deviationCheck at checked
  dsimp only at checked
  rw [pastDeviation_fst, known] at checked
  unfold evaluatedRatios
  dsimp only
  split at checked
  · rename_i needed
    rw [if_pos needed]
    cases answer with
    | none =>
      cases checked
      exact Number.larger_zero_isLargest notNegative
    | some packages =>
      cases checked
      exact Number.larger_isLargest _ _
  · rename_i spared
    rw [if_neg spared]
    cases checked
    exact Number.larger_zero_isLargest notNegative

section

variable {past : PastPackages}

theorem find_past_of_consults (consults : engine.Consults context trigger) :
    (engine.find context trigger past).2 = past.get.2 := by
  obtain ⟨snapshot, observed, threshold, configured, needed⟩ := consults
  unfold find
  rw [if_pos ((context.packages.has_iff trigger.feed).mpr observed.served), observed.stored]
  simp [review, reviewDeviation, configured, pastDeviation, needed]

theorem find_past_of_spared (spared : ¬engine.Consults context trigger) :
    (engine.find context trigger past).2 = past := by
  unfold find
  split
  · rename_i served
    cases stored : context.contract.find? trigger.feed with
    | none => rfl
    | some snapshot =>
      cases configured : trigger.deviation? with
      | none => simp [review, reviewDeviation, configured]
      | some threshold =>
        have needless : ¬Condition.needsPast (Condition.deviation trigger.feed context.packages
            snapshot.value threshold) engine.fallback = true := by
          intro needed
          have observed : context.Observed trigger.feed snapshot :=
            ⟨(context.packages.has_iff trigger.feed).mp served, stored⟩
          exact spared ⟨snapshot, observed, threshold, configured, needed⟩
        simp [review, reviewDeviation, configured, pastDeviation, needless]
  · rfl

theorem findings_append (engine : Engine) (context : IterationContext) (before after : List Trigger)
    (past : PastPackages) :
    (engine.findings context (before ++ after) past).1 =
      (engine.findings context before past).1 ++
        (engine.findings context after (engine.findings context before past).2).1 := by
  induction before generalizing past with
  | nil => rfl
  | cons first rest ih => simp [findings, ih]

theorem findings_past_asked (engine : Engine) (context : IterationContext)
    (triggers : List Trigger) (answer : Option PackageSet) :
    (engine.findings context triggers (.asked answer)).2 = .asked answer := by
  induction triggers with
  | nil => rfl
  | cons first rest ih =>
    have still : (engine.find context first (.asked answer)).2 = .asked answer := by
      by_cases consults : engine.Consults context first
      · rw [find_past_of_consults consults, PastPackages.get_asked]
      · exact find_past_of_spared consults
    simp only [findings, still]
    exact ih

theorem findings_past_of_consults {triggers : List Trigger}
    (consults : ∃ trigger ∈ triggers, engine.Consults context trigger) :
    (engine.findings context triggers (.ofAnswer answer)).2 = .asked answer := by
  induction triggers with
  | nil => simp at consults
  | cons first rest ih =>
    simp only [findings]
    by_cases now : engine.Consults context first
    · rw [find_past_of_consults now, PastPackages.get_ofAnswer]
      exact engine.findings_past_asked context rest answer
    · rw [find_past_of_spared now]
      apply ih
      simpa [now] using consults

theorem findings_past_of_spared {triggers : List Trigger}
    (spared : ∀ trigger ∈ triggers, ¬engine.Consults context trigger) :
    (engine.findings context triggers past).2 = past := by
  induction triggers with
  | nil => rfl
  | cons first rest ih =>
    simp only [findings]
    rw [find_past_of_spared (spared first List.mem_cons_self)]
    exact ih fun trigger later => spared trigger (List.mem_cons_of_mem _ later)

end

/-- While the triggers are looked at, the source waits until a review consults past packages; from
then on its answer is kept. Either way the next feed finds that answer, and it is asked for once. -/
theorem findings_past (source : context.past = .ofAnswer answer) (triggers : List Trigger) :
    let past := (engine.findings context triggers context.past).2
    ((∃ trigger ∈ triggers, engine.Consults context trigger) ∧ past = .asked answer ∨
      (∀ trigger ∈ triggers, ¬engine.Consults context trigger) ∧ past = .ofAnswer answer) ∧
    past.get = (answer, .asked answer) := by
  intro past
  by_cases consults : ∃ trigger ∈ triggers, engine.Consults context trigger
  · have asked : past = .asked answer := by
      rw [← findings_past_of_consults consults, ← source]
    exact ⟨.inl ⟨consults, asked⟩, asked ▸ PastPackages.get_asked answer⟩
  · have spared : ∀ trigger ∈ triggers, ¬engine.Consults context trigger := by
      simpa using consults
    have waits : past = .ofAnswer answer := (findings_past_of_spared spared).trans source
    exact ⟨.inr ⟨spared, waits⟩, waits ▸ PastPackages.get_ofAnswer answer⟩

/-- What is recorded for a feed is the largest of the ratios that are evaluated for a deviation of
it. -/
theorem recorded_isLargest (source : context.past = .ofAnswer answer) {feed : FeedId}
    {ratio : Float} (recorded : (engine.evaluate context).1.ratios.find? feed = some ratio) :
    ∃ trigger ∈ engine.triggers.triggers, trigger.feed = feed ∧
      ∃ snapshot, context.Observed feed snapshot ∧
        ∃ threshold, trigger.deviation? = some threshold ∧ Number.IsLargest
          (engine.evaluatedRatios context answer feed threshold snapshot) ratio := by
  rw [evaluate_ratios, decide_ratios] at recorded
  obtain ⟨trigger, configured, snapshot, observed, rfl, own⟩ :=
    mem_recordedRatios_iff.mp (FeedMap.mem_of_find?_ofList recorded)
  exact ⟨trigger, configured, rfl, snapshot, observed, ratio?_isLargest source own⟩

theorem exists_recorded (configured : trigger ∈ engine.triggers.triggers)
    (observed : context.Observed trigger.feed snapshot) {threshold : Float}
    (watched : trigger.deviation? = some threshold) :
    ∃ ratio, (engine.evaluate context).1.ratios.find? trigger.feed = some ratio := by
  have own : engine.ratio? context trigger snapshot =
      (engine.deviationCheck context trigger.feed threshold snapshot).ratio? := by
    simp [ratio?, watched]
  rw [evaluate_ratios, decide_ratios]
  exact FeedMap.exists_find?_ofList
    (mem_recordedRatios_iff.mpr ⟨trigger, configured, snapshot, observed, rfl, own⟩)

/-- A whole evaluation asks the source once if any trigger consults past packages. -/
theorem evaluate_requests (engine : Engine) (source : context.past = .ofAnswer answer) :
    (∃ trigger ∈ engine.triggers.triggers, engine.Consults context trigger) ∧
        (engine.evaluate context).2.requests = 1 ∨
      (∀ trigger ∈ engine.triggers.triggers, ¬engine.Consults context trigger) ∧
        (engine.evaluate context).2.requests = 0 := by
  have counted : (engine.evaluate context).2 =
      (engine.findings context engine.triggers.triggers context.past).2 := rfl
  rw [counted]
  obtain ⟨⟨consults, asked⟩ | ⟨spared, waits⟩, _⟩ := findings_past source engine.triggers.triggers
  · exact .inl ⟨consults, by rw [asked, PastPackages.asked]⟩
  · exact .inr ⟨spared, by rw [waits, PastPackages.ofAnswer]⟩

/-- Past packages are consulted by a backup, for a feed that deviates by its latest packages, or for
any watched feed if the backup always looks. -/
theorem exists_consults_iff :
    (∃ trigger ∈ engine.triggers.triggers, engine.Consults context trigger) ↔
      0 < engine.fallback.offset ∧ ∃ trigger ∈ engine.triggers.triggers, ∃ snapshot,
        context.Observed trigger.feed snapshot ∧ ∃ threshold, trigger.deviation? = some threshold ∧
          ((Condition.deviation trigger.feed context.packages snapshot.value threshold).fires =
            true ∨ engine.fallback.notLazy = true) := by
  simp only [Consults, Condition.needsPast, Fallback.isActive, Bool.and_eq_true, Bool.or_eq_true,
    decide_eq_true_eq]
  constructor
  · rintro ⟨trigger, configured, snapshot, observed, threshold, watched, active, looks⟩
    exact ⟨active, trigger, configured, snapshot, observed, threshold, watched, looks⟩
  · rintro ⟨active, trigger, configured, snapshot, observed, threshold, watched, looks⟩
    exact ⟨trigger, configured, snapshot, observed, threshold, watched, active, looks⟩

theorem mem_selected_confirmed_iff (source : context.past = .ofAnswer answer)
    (active : engine.fallback.isActive = true) {feed : FeedId} :
    feed ∈ selected (engine.found context) ↔
      ∃ trigger ∈ engine.triggers.triggers, trigger.feed = feed ∧
        ∃ snapshot, context.Fresh feed snapshot ∧
          (engine.DeadlineDue context trigger snapshot ∨
            ∃ threshold, trigger.deviation? = some threshold ∧
              engine.DeviationConfirmed context answer feed threshold snapshot) := by
  rw [mem_selected_found_iff]
  constructor
  · rintro ⟨trigger, configured, rfl, snapshot, fresh, due | ⟨threshold, watched, due⟩⟩
    · exact ⟨trigger, configured, rfl, snapshot, fresh, .inl due⟩
    · have confirmed := (deviationDue_iff_confirmed source active).mp due
      exact ⟨trigger, configured, rfl, snapshot, fresh, .inr ⟨threshold, watched, confirmed⟩⟩
  · rintro ⟨trigger, configured, rfl, snapshot, fresh, due | ⟨threshold, watched, confirmed⟩⟩
    · exact ⟨trigger, configured, rfl, snapshot, fresh, .deadline due⟩
    · have due := (deviationDue_iff_confirmed source active).mpr confirmed
      exact ⟨trigger, configured, rfl, snapshot, fresh, .deviation threshold watched due⟩

/-- The part that past packages play in a decision. In a backup a deviation counts exactly where it
is confirmed; what is recorded for a deviation is the largest of the ratios evaluated. Between any
two triggers the source either waits or has been asked, and then its answer is kept, be it that
there are no past packages; it is asked once at most, and exactly where a backup looks. -/
theorem evaluate_pastChecks (engine : Engine) (context : IterationContext)
    (answer : Option PackageSet) (source : context.past = .ofAnswer answer) :
    let requests := (engine.evaluate context).2.requests
    (engine.fallback.isActive = true → ∀ feed, feed ∈ selected (engine.found context) ↔
      ∃ trigger ∈ engine.triggers.triggers, trigger.feed = feed ∧
        ∃ snapshot, context.Fresh feed snapshot ∧
          (engine.DeadlineDue context trigger snapshot ∨
            ∃ threshold, trigger.deviation? = some threshold ∧
              engine.DeviationConfirmed context answer feed threshold snapshot)) ∧
    (∀ feed ratio, (engine.evaluate context).1.ratios.find? feed = some ratio →
      ∃ trigger ∈ engine.triggers.triggers, trigger.feed = feed ∧
        ∃ snapshot, context.Observed feed snapshot ∧
          ∃ threshold, trigger.deviation? = some threshold ∧ Number.IsLargest
            (engine.evaluatedRatios context answer feed threshold snapshot) ratio) ∧
    (∀ trigger ∈ engine.triggers.triggers, ∀ snapshot, context.Observed trigger.feed snapshot →
      ∀ threshold, trigger.deviation? = some threshold →
        ∃ ratio, (engine.evaluate context).1.ratios.find? trigger.feed = some ratio) ∧
    (∀ before after, engine.triggers.triggers = before ++ after →
      let past := (engine.findings context before context.past).2
      engine.found context = (engine.findings context before context.past).1 ++
        (engine.findings context after past).1 ∧
      ((∃ trigger ∈ before, engine.Consults context trigger) ∧ past = .asked answer ∨
        (∀ trigger ∈ before, ¬engine.Consults context trigger) ∧ past = .ofAnswer answer) ∧
      past.get = (answer, .asked answer)) ∧
    requests ≤ 1 ∧
    (requests = 1 ↔ 0 < engine.fallback.offset ∧ ∃ trigger ∈ engine.triggers.triggers, ∃ snapshot,
      context.Observed trigger.feed snapshot ∧ ∃ threshold, trigger.deviation? = some threshold ∧
        ((Condition.deviation trigger.feed context.packages snapshot.value threshold).fires =
          true ∨ engine.fallback.notLazy = true)) ∧
    (engine.fallback.offset = 0 → requests = 0) := by
  intro requests
  refine ⟨fun active _ => mem_selected_confirmed_iff source active,
    fun _ _ => recorded_isLargest source, fun _ configured _ observed _ watched =>
      exists_recorded configured observed watched, ?_, ?_⟩
  · intro before after split past
    obtain ⟨state, answered⟩ := findings_past source before
    refine ⟨?_, state, answered⟩
    rw [found, split]
    exact engine.findings_append context before after context.past
  · rw [← exists_consults_iff]
    rcases engine.evaluate_requests source with ⟨consults, once⟩ | ⟨spared, never⟩
    · refine ⟨once.le, iff_of_true once consults, fun primary => ?_⟩
      obtain ⟨active, _⟩ := exists_consults_iff.mp consults
      exact absurd primary active.ne'
    · have idle : requests = 0 := never
      refine ⟨idle.le.trans zero_le_one, iff_of_false (idle ▸ zero_ne_one) ?_, fun _ => never⟩
      simpa using spared

def pair (first second : Float) : PackageSet :=
  let package (feed : FeedId) (value : Float) : Package :=
    ⟨feed, 2000, FixedBytes.ofNat 20 1, [{ feed, value }], []⟩
  FeedMap.ofList [("BTC", [package "BTC" second]), ("ETH", [package "ETH" first])]

def minuteLater : Engine where
  triggers := ⟨[{ feed := "ETH", deviation? := some 1.0 }, { feed := "BTC", deviation? := some 1.0 }],
    none⟩
  fallback := { offset := 60000, skipFrequent := true }

def risen (answer : Option PackageSet) : IterationContext where
  block := 1
  now := 100000
  contract := FeedMap.ofList
    [("BTC", ⟨1000, 1000, 10000000000⟩), ("ETH", ⟨1000, 1000, 10000000000⟩)]
  packages := pair 110.0 110.0
  past := .ofAnswer answer

/-- What the source has: one of the two was up a minute ago already. -/
def firstUp : PackageSet := pair 105.0 100.0

/-- That one alone is selected, on one request. -/
theorem evaluate_pastChecks_risen :
    (risen (some firstUp)).past = .ofAnswer (some firstUp) ∧
      "ETH" ∈ selected (minuteLater.found (risen (some firstUp))) ∧
      "BTC" ∉ selected (minuteLater.found (risen (some firstUp))) ∧
      (minuteLater.evaluate (risen (some firstUp))).2.requests = 1 := by
  obtain ⟨selects, -, -, -, -, asks, -⟩ :=
    evaluate_pastChecks minuteLater (risen (some firstUp)) (some firstUp) rfl
  have deviates : (Condition.deviation "ETH" (pair 110.0 110.0) 10000000000 1.0).fires = true := by
    decide +kernel
  have fresh : (risen (some firstUp)).Fresh "ETH" ⟨1000, 1000, 10000000000⟩ :=
    ⟨by decide, by decide, by decide⟩
  refine ⟨rfl, ?_, ?_, ?_⟩
  · apply (selects rfl "ETH").mpr
    refine ⟨_, List.mem_cons_self, rfl, _, fresh, .inr ⟨1.0, rfl, deviates, ?_, by decide⟩⟩
    exact ⟨firstUp, rfl, by decide +kernel⟩
  · decide +kernel
  · exact asks.mpr ⟨by decide, _, List.mem_cons_self, _, fresh.observed, 1.0, rfl, .inl deviates⟩

end Engine

end PriceRelay
