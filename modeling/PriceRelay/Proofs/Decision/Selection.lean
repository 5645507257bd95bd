import PriceRelay.Proofs.Decision.Firing
import PriceRelay.Proofs.Decision.Widening
/-!
Which feeds a decision writes: in configured order, all of them fresh, and among them every fresh
feed that fires.
-/

namespace PriceRelay.Engine

/-- A finding keeps a review exactly for a fresh feed, and the review fires exactly when the trigger
does. -/
structure Judged (engine : Engine) (context : IterationContext) (trigger : Trigger)
    (finding : Finding) : Prop where
  sound : ∀ review, finding.freshReview? = some review →
    ∃ snapshot, context.Fresh trigger.feed snapshot ∧
      (review.fires = true ↔ engine.Fires context trigger snapshot)
  complete : ∀ snapshot, context.Fresh trigger.feed snapshot → finding.freshReview?.isSome = true

@[simp] theorem answer_find (engine : Engine) (context : IterationContext) (trigger : Trigger)
    (past : PastPackages) : (engine.find context trigger past).2.answer = past.answer := by
  unfold find
  split
  · split
    · rfl
    · simp [review]
  · rfl

theorem freshReview?_reviewed_eq_some {review kept : Review} {proposed? : Option Millis}
    {stored : Millis} :
    (Finding.reviewed review proposed? stored).freshReview? = some kept ↔
      isFresh proposed? stored = true ∧ review = kept := by
  unfold Finding.freshReview?
  split <;> simp_all

section

variable {engine : Engine} {context : IterationContext} {trigger : Trigger} {past : PastPackages}

theorem find_freshReview? {review : Review} :
    (engine.find context trigger past).1.freshReview? = some review ↔
      ∃ snapshot, context.Fresh trigger.feed snapshot ∧
        (engine.review context trigger snapshot past).1 = review := by
  unfold find
  by_cases served : context.packages.has trigger.feed = true
  · rw [if_pos served]
    cases stored : context.contract.find? trigger.feed with
    | none =>
      refine ⟨nofun, ?_⟩
      rintro ⟨snapshot, fresh, _⟩
      simp [fresh.stored] at stored
    | some snapshot =>
      have newer := context.packages.any_lt_timestamp?_iff trigger.feed snapshot.dataTimestamp
      rw [freshReview?_reviewed_eq_some]
      constructor
      · rintro ⟨fresh, same⟩
        obtain ⟨nonempty, bound⟩ := newer.mp fresh
        exact ⟨snapshot, ⟨nonempty, stored, bound⟩, same⟩
      · rintro ⟨other, fresh, same⟩
        obtain rfl : other = snapshot := Option.some.inj (fresh.stored.symm.trans stored)
        exact ⟨newer.mpr ⟨fresh.served, fresh.newer⟩, same⟩
  · rw [if_neg served]
    refine ⟨nofun, ?_⟩
    rintro ⟨snapshot, fresh, _⟩
    exact absurd ((context.packages.has_iff trigger.feed).mpr fresh.served) served

theorem findings_of_mem {triggers : List Trigger} {past : PastPackages}
    (same : past.answer = context.past.answer) {entry : Trigger × Finding}
    (member : entry ∈ (engine.findings context triggers past).1) :
    ∃ past : PastPackages, past.answer = context.past.answer ∧
      (engine.find context entry.1 past).1 = entry.2 := by
  induction triggers generalizing past with
  | nil => simp [findings] at member
  | cons trigger rest ih =>
    simp only [findings, List.mem_cons] at member
    rcases member with rfl | later
    · exact ⟨past, same, rfl⟩
    · apply ih _ later
      rw [answer_find]
      exact same

end

theorem find_judged (engine : Engine) (context : IterationContext) (trigger : Trigger)
    (past : PastPackages) (same : past.answer = context.past.answer) :
    engine.Judged context trigger (engine.find context trigger past).1 := by
  constructor
  · intro review kept
    obtain ⟨snapshot, fresh, rfl⟩ := find_freshReview?.mp kept
    exact ⟨snapshot, fresh, engine.review_fires context trigger snapshot past same⟩
  · intro snapshot fresh
    exact Option.isSome_iff_exists.mpr ⟨_, find_freshReview?.mpr ⟨snapshot, fresh, rfl⟩⟩

theorem findings_triggers (engine : Engine) (context : IterationContext) (triggers : List Trigger)
    (past : PastPackages) :
    (engine.findings context triggers past).1.map (·.1) = triggers := by
  induction triggers generalizing past with
  | nil => rfl
  | cons trigger rest ih => simp [findings, ih]

theorem findings_judged (engine : Engine) (context : IterationContext) (triggers : List Trigger)
    (past : PastPackages) (same : past.answer = context.past.answer) :
    ∀ entry ∈ (engine.findings context triggers past).1,
      engine.Judged context entry.1 entry.2 := by
  intro entry member
  obtain ⟨past, same, found⟩ := findings_of_mem same member
  rw [← found]
  exact engine.find_judged context entry.1 past same

theorem candidates_feeds (engine : Engine) (now : Millis) (found : List (Trigger × Finding)) :
    (engine.candidates now found).map (·.feed) =
      (found.filter (·.2.freshReview?.isSome)).map (·.1.feed) := by
  induction found with
  | nil => rfl
  | cons entry rest ih =>
    obtain ⟨trigger, finding⟩ := entry
    cases kept : finding.freshReview? <;> simpa [candidates, kept] using ih

theorem selected_eq (found : List (Trigger × Finding)) :
    selected found =
      (found.filter (·.2.freshReview?.any (·.fires))).map (·.1.feed) := by
  induction found with
  | nil => rfl
  | cons entry rest ih =>
    obtain ⟨trigger, finding⟩ := entry
    cases kept : finding.freshReview? with
    | none => simpa [selected, kept] using ih
    | some review => cases fires : review.fires <;> simpa [selected, kept, fires] using ih

theorem mem_candidates_iff (engine : Engine) (now : Millis) (found : List (Trigger × Finding))
    (feed : FeedId) :
    feed ∈ (engine.candidates now found).map (·.feed) ↔ ∃ entry ∈ found, entry.1.feed = feed ∧
      ∃ review, entry.2.freshReview? = some review := by
  rw [candidates_feeds, List.mem_map]
  constructor
  · rintro ⟨entry, member, rfl⟩
    obtain ⟨present, kept⟩ := List.mem_filter.mp member
    exact ⟨entry, present, rfl, Option.isSome_iff_exists.mp kept⟩
  · rintro ⟨entry, present, rfl, kept⟩
    exact ⟨entry, List.mem_filter.mpr ⟨present, Option.isSome_iff_exists.mpr kept⟩, rfl⟩

theorem mem_selected_iff (found : List (Trigger × Finding)) (feed : FeedId) :
    feed ∈ selected found ↔ ∃ entry ∈ found, entry.1.feed = feed ∧
      ∃ review, entry.2.freshReview? = some review ∧ review.fires = true := by
  rw [selected_eq, List.mem_map]
  constructor
  · rintro ⟨entry, member, rfl⟩
    obtain ⟨present, fires⟩ := List.mem_filter.mp member
    exact ⟨entry, present, rfl, (Option.any_eq_true _ _).mp fires⟩
  · rintro ⟨entry, present, rfl, review, kept, fires⟩
    exact ⟨entry, List.mem_filter.mpr ⟨present, by simpa [kept] using fires⟩, rfl⟩

theorem selected_subset_candidates (engine : Engine) (now : Millis)
    (found : List (Trigger × Finding)) :
    selected found ⊆ (engine.candidates now found).map (·.feed) := by
  intro feed member
  obtain ⟨entry, present, same, review, kept, _⟩ := (mem_selected_iff found feed).mp member
  exact (engine.mem_candidates_iff now found feed).mpr ⟨entry, present, same, review, kept⟩

theorem inOrder_of_sublist {order feeds : List FeedId} (distinct : order.Nodup)
    (sublist : feeds.Sublist order) : inOrder order feeds = feeds := by
  have ordered : order.Pairwise fun a b => order.idxOf a ≤ order.idxOf b := by
    refine List.pairwise_iff_getElem.mpr fun i j first second before => ?_
    rw [distinct.idxOf_getElem, distinct.idxOf_getElem]
    exact Nat.le_of_lt before
  refine List.mergeSort_of_pairwise ?_
  exact (ordered.sublist sublist).imp fun le => by simpa using le

/-- Apart from its messages, a decision is optimized by widening it. -/
theorem optimize_eq_widen (engine : Engine) (context : IterationContext)
    (found : List (Trigger × Finding)) (decision : Decision) :
    ∃ messages, engine.optimize context found decision =
      { decision with messages }.widen (engine.candidates context.now found) engine.optimization
        context.packages := by
  unfold optimize
  split
  · exact ⟨_, rfl⟩
  · rename_i idle
    have empty : decision.feeds = [] := by simpa [Decision.shouldUpdate] using idle
    exact ⟨decision.messages, (Decision.widen_empty empty _ _ _).symm⟩

def found (engine : Engine) (context : IterationContext) : List (Trigger × Finding) :=
  (engine.findings context engine.triggers.triggers context.past).1

theorem found_judged (engine : Engine) (context : IterationContext) :
    ∀ entry ∈ engine.found context, engine.Judged context entry.1 entry.2 :=
  engine.findings_judged context engine.triggers.triggers context.past rfl

theorem mem_triggers_iff (engine : Engine) (context : IterationContext) (trigger : Trigger) :
    trigger ∈ engine.triggers.triggers ↔ ∃ entry ∈ engine.found context, entry.1 = trigger := by
  rw [← engine.findings_triggers context engine.triggers.triggers context.past]
  exact List.mem_map

theorem found_feeds (engine : Engine) (context : IterationContext) :
    (engine.found context).map (·.1.feed) = engine.triggers.feeds := by
  rw [TriggerSet.feeds, ← engine.findings_triggers context engine.triggers.triggers context.past,
    List.map_map]
  rfl

theorem fresh_of_candidate (engine : Engine) (context : IterationContext) {feed : FeedId}
    (member : feed ∈ (engine.candidates context.now (engine.found context)).map (·.feed)) :
    ∃ snapshot, context.Fresh feed snapshot := by
  obtain ⟨entry, present, rfl, review, kept⟩ := (engine.mem_candidates_iff _ _ _).mp member
  obtain ⟨snapshot, fresh, _⟩ := (engine.found_judged context entry present).sound review kept
  exact ⟨snapshot, fresh⟩

theorem mem_selected_found_iff (engine : Engine) (context : IterationContext) (feed : FeedId) :
    feed ∈ selected (engine.found context) ↔
      ∃ trigger ∈ engine.triggers.triggers, trigger.feed = feed ∧
        ∃ snapshot, context.Fresh feed snapshot ∧ engine.Fires context trigger snapshot := by
  rw [mem_selected_iff]
  constructor
  · rintro ⟨entry, present, rfl, review, kept, fires⟩
    obtain ⟨snapshot, fresh, due⟩ := (engine.found_judged context entry present).sound review kept
    have configured := (engine.mem_triggers_iff context entry.1).mpr ⟨entry, present, rfl⟩
    exact ⟨entry.1, configured, rfl, snapshot, fresh, due.mp fires⟩
  · rintro ⟨trigger, configured, rfl, snapshot, fresh, fires⟩
    obtain ⟨entry, present, rfl⟩ := (engine.mem_triggers_iff context trigger).mp configured
    have judged := engine.found_judged context entry present
    obtain ⟨review, kept⟩ := Option.isSome_iff_exists.mp (judged.complete snapshot fresh)
    obtain ⟨other, otherFresh, due⟩ := judged.sound review kept
    obtain rfl := fresh.unique otherFresh
    exact ⟨entry, present, rfl, review, kept, due.mpr fires⟩

/-- What a decision writes: the feeds selected at first, widened and put into order. -/
theorem evaluate_widened (engine : Engine) (context : IterationContext) :
    ∃ decision : Decision, decision.feeds = selected (engine.found context) ∧
      (engine.evaluate context).1.feeds = inOrder engine.triggers.feeds
        (decision.widen (engine.candidates context.now (engine.found context)) engine.optimization
          context.packages).feeds := by
  obtain ⟨messages, widens⟩ := engine.optimize_eq_widen context (engine.found context)
    (decide context.block (engine.found context))
  let decision : Decision := { decide context.block (engine.found context) with messages }
  refine ⟨decision, rfl, ?_⟩
  rw [← widens]
  rfl

/-- Every feed that a decision writes is fresh. -/
theorem written_fresh {engine : Engine} {context : IterationContext} {feed : FeedId}
    (written : feed ∈ (engine.evaluate context).1.feeds) :
    ∃ snapshot, context.Fresh feed snapshot := by
  obtain ⟨decision, chosen, same⟩ := engine.evaluate_widened context
  have eligible : decision.feeds ⊆
      (engine.candidates context.now (engine.found context)).map (·.feed) :=
    chosen ▸ engine.selected_subset_candidates context.now (engine.found context)
  rw [same, inOrder, List.mem_mergeSort] at written
  exact engine.fresh_of_candidate context (Decision.widen_subset eligible _ _ written)

/-- Every fresh feed that fires is written. -/
theorem firing_written {engine : Engine} {context : IterationContext} {trigger : Trigger}
    {snapshot : Snapshot} (configured : trigger ∈ engine.triggers.triggers)
    (fresh : context.Fresh trigger.feed snapshot)
    (fires : engine.Fires context trigger snapshot) :
    trigger.feed ∈ (engine.evaluate context).1.feeds := by
  obtain ⟨decision, chosen, same⟩ := engine.evaluate_widened context
  have eligible : decision.feeds ⊆
      (engine.candidates context.now (engine.found context)).map (·.feed) :=
    chosen ▸ engine.selected_subset_candidates context.now (engine.found context)
  have member : trigger.feed ∈ decision.feeds := by
    rw [chosen, engine.mem_selected_found_iff]
    exact ⟨trigger, configured, rfl, snapshot, fresh, fires⟩
  rw [same, inOrder, List.mem_mergeSort]
  exact Decision.subset_widen eligible _ _ member

theorem evaluate_feeds (engine : Engine) (context : IterationContext)
    (distinct : engine.triggers.feeds.Nodup) :
    ∃ decision : Decision,
      let candidates := engine.candidates context.now (engine.found context)
      let widened := decision.widen candidates engine.optimization context.packages
      decision.feeds = selected (engine.found context) ∧
        (engine.evaluate context).1.feeds = widened.feeds ∧
        widened.feeds.Sublist engine.triggers.feeds := by
  obtain ⟨decision, chosen, same⟩ := engine.evaluate_widened context
  have selection : decision.feeds.Sublist engine.triggers.feeds := by
    rw [chosen, ← engine.found_feeds context, selected_eq]
    exact List.filter_sublist.map _
  have candidates : ((engine.candidates context.now (engine.found context)).map (·.feed)).Sublist
      engine.triggers.feeds := by
    rw [← engine.found_feeds context, candidates_feeds]
    exact List.filter_sublist.map _
  have ordered : (decision.widen (engine.candidates context.now (engine.found context))
      engine.optimization context.packages).feeds.Sublist engine.triggers.feeds :=
    Decision.widen_sublist selection candidates _ _
  exact ⟨decision, chosen, same.trans (inOrder_of_sublist distinct ordered), ordered⟩

/-- For distinct feeds, a decision writes them in configured order, each at most once. Whatever the
optimization, all of them are fresh, and every fresh feed that fires is one of them; where no fresh
feed fires there are none. Without optimization there are no others. -/
theorem evaluate_selects_fresh (engine : Engine) (context : IterationContext)
    (distinct : engine.triggers.feeds.Nodup) :
    let feeds := (engine.evaluate context).1.feeds
    feeds.Sublist engine.triggers.feeds ∧ feeds.Nodup ∧
    (∀ feed ∈ feeds, ∃ snapshot, context.Fresh feed snapshot) ∧
    (∀ trigger ∈ engine.triggers.triggers, ∀ snapshot, context.Fresh trigger.feed snapshot →
      engine.Fires context trigger snapshot → trigger.feed ∈ feeds) ∧
    ((∀ trigger ∈ engine.triggers.triggers, ∀ snapshot, context.Fresh trigger.feed snapshot →
      ¬ engine.Fires context trigger snapshot) → feeds = []) ∧
    (engine.optimization.isEnabled = false → ∀ feed ∈ feeds,
      ∃ trigger ∈ engine.triggers.triggers, trigger.feed = feed ∧
        ∃ snapshot, context.Fresh feed snapshot ∧ engine.Fires context trigger snapshot) := by
  intro feeds
  -- `decision` is the one before widening; what is said of firing feeds is said of it first.
  obtain ⟨decision, chosen, same, ordered⟩ := engine.evaluate_feeds context distinct
  replace same : feeds = _ := same
  have firing : ∀ feed, feed ∈ decision.feeds ↔ _ := fun feed =>
    chosen ▸ engine.mem_selected_found_iff context feed
  refine ⟨same ▸ ordered, distinct.sublist (same ▸ ordered), ?_, ?_, ?_, ?_⟩
  · intro feed member
    exact written_fresh member
  · intro trigger configured snapshot fresh fires
    exact firing_written configured fresh fires
  · intro quiet
    have empty : decision.feeds = [] := by
      refine List.eq_nil_iff_forall_not_mem.mpr fun feed member => ?_
      obtain ⟨trigger, configured, rfl, snapshot, fresh, fires⟩ := (firing feed).mp member
      exact quiet trigger configured snapshot fresh fires
    rw [same, Decision.widen_empty empty, empty]
  · intro disabled feed member
    rw [same, Decision.widen_disabled decision _ disabled context.packages] at member
    exact (firing feed).mp member

/-- Two feeds whose heartbeats have passed, in a widened decision: the one with newer packages is
written, and the one whose packages are stored already is not. -/
theorem evaluate_selects_newer_of_two :
    let engine : Engine := {
      triggers := ⟨[{ feed := "ETH", heartbeat? := some 0 },
        { feed := "BTC", heartbeat? := some 0 }], none⟩
      optimization := { syncHeartbeats := true } }
    let package (feed : FeedId) (timestamp : Millis) : Package :=
      ⟨feed, timestamp, FixedBytes.ofNat 20 1, [{ feed, value := 1.0 }], []⟩
    let context : IterationContext := {
      block := 1
      now := 3000
      contract := FeedMap.ofList [("BTC", ⟨1000, 1000, 1⟩), ("ETH", ⟨1000, 1000, 1⟩)]
      packages := FeedMap.ofList [("BTC", [package "BTC" 1000]), ("ETH", [package "ETH" 2000])] }
    engine.triggers.feeds.Nodup ∧ "ETH" ∈ (engine.evaluate context).1.feeds ∧
      "BTC" ∉ (engine.evaluate context).1.feeds := by
  intro engine package context
  have distinct : engine.triggers.feeds.Nodup := by decide
  obtain ⟨_, _, fresh, due, _⟩ := evaluate_selects_fresh engine context distinct
  refine ⟨distinct, ?_, fun written => ?_⟩
  · refine due { feed := "ETH", heartbeat? := some 0 } (by simp [engine]) ⟨1000, 1000, 1⟩ ?_ ?_
    · exact ⟨by decide, by decide, by decide⟩
    · exact .deadline (.heartbeat 0 (by decide) (by decide))
  · obtain ⟨snapshot, stale⟩ := fresh "BTC" written
    have stored : context.contract.find? "BTC" = some ⟨1000, 1000, 1⟩ := by decide
    obtain rfl := Option.some.inj (stale.stored.symm.trans stored)
    have member : package "BTC" 1000 ∈ context.packages.listed "BTC" := by decide
    exact absurd (stale.newer _ member) (by decide)

end PriceRelay.Engine
