import Mathlib.Order.Bounds.Defs
import PriceRelay.Proofs.Decision.Closure
import PriceRelay.Proofs.Packages.ByFeed
/-!
Widening as a closure. The feeds of a widened decision are the least set that has the selection, has
every candidate with a reason of its own, and with a feed has the candidates that share a package
with it; the sweeps come to an end there.
-/

namespace PriceRelay

namespace Widening

variable {candidates : List Candidate} {set : PackageSet}

theorem inSync_iff {interval fired : Millis} :
    inSync interval fired = true ↔ interval = 0 ∨ interval ∣ fired := by
  simp [inSync, Nat.dvd_iff_mod_eq_zero]

theorem sweep_of_none_waiting {reason? : List FeedId → Candidate → Option String} {state : State}
    (none_waits : waiting candidates state.selected = []) :
    sweep reason? state candidates = state := by
  induction candidates with
  | nil => rfl
  | cons first rest ih =>
    obtain ⟨present, later⟩ : first.feed ∈ state.selected ∧ waiting rest state.selected = [] := by
      simpa [waiting] using none_waits
    rw [sweep_cons]
    have same : sweep reason? state [first] = state := by simp [sweep, present]
    rw [same]
    exact ih later

/-- As many sweeps for shared packages as candidates that wait are enough: more of them change
nothing. -/
theorem spread_settled {fuel : Nat} {state : State}
    (enough : (waiting candidates state.selected).length ≤ fuel) (more : Nat) :
    spread set candidates (fuel + more) state = spread set candidates fuel state := by
  induction fuel generalizing state with
  | zero =>
    have none_waits : waiting candidates state.selected = [] :=
      List.length_eq_zero_iff.mp (Nat.le_zero.mp enough)
    rw [Nat.zero_add]
    cases more with
    | zero => rfl
    | succ more => simp [spread, sweep_of_none_waiting none_waits]
  | succ fuel ih =>
    rw [Nat.succ_add, spread, spread]
    by_cases grown : (sweep (shared? set) state candidates).selected.length = state.selected.length
    · rw [if_pos grown, if_pos grown]
    · have fewer := length_waiting_sweep_lt grown
      rw [if_neg grown, if_neg grown]
      exact ih (by omega)

/-- A set of feeds that nothing more has a reason to join. -/
structure Saturated (decision : Decision) (candidates : List Candidate)
    (optimization : Optimization) (set : PackageSet) (feeds : Set FeedId) : Prop where
  selected : ∀ feed ∈ decision.feeds, feed ∈ feeds
  /-- It has the candidates whose recorded ratio reaches the threshold. -/
  near : ∀ candidate ∈ candidates, ∀ threshold, optimization.threshold? = some threshold →
    ∀ ratio, decision.ratios.find? candidate.feed = some ratio → threshold ≤ ratio →
      candidate.feed ∈ feeds
  /-- It has the candidates whose heartbeat is zero or divides one that fired. -/
  synced : optimization.syncHeartbeats = true → ∀ candidate ∈ candidates, ∀ interval,
    candidate.heartbeat? = some interval → ∀ fired ∈ decision.heartbeats,
      interval = 0 ∨ interval ∣ fired → candidate.feed ∈ feeds
  /-- With a feed it has the candidates that share a package with it. -/
  shared : optimization.isEnabled = true → ∀ candidate ∈ candidates, ∀ other ∈ feeds,
    set.Shares candidate.feed other → candidate.feed ∈ feeds

section

variable {decision : Decision} {optimization : Optimization}

theorem joins_saturated : Saturated decision candidates optimization set
    {feed | Joins decision candidates optimization set feed} where
  selected _ chosen := .selected chosen
  near _ among _ limit _ recorded reached := .near among limit recorded reached
  synced enabled _ among _ own _ passed sync :=
    .synced among enabled own passed (inSync_iff.mpr sync)
  shared enabled _ among _ joined shares :=
    .shared among enabled (PackageSet.mem_sharing_iff.mpr shares) joined

theorem Saturated.mem_of_joins {feeds : Set FeedId}
    (saturated : Saturated decision candidates optimization set feeds) {feed : FeedId}
    (joins : Joins decision candidates optimization set feed) : feed ∈ feeds := by
  induction joins with
  | selected chosen => exact saturated.selected _ chosen
  | near among limit recorded reached =>
    exact saturated.near _ among _ limit _ recorded reached
  | synced among enabled own passed sync =>
    exact saturated.synced enabled _ among _ own _ passed (inSync_iff.mp sync)
  | shared among enabled sharing _ ih =>
    exact saturated.shared enabled _ among _ ih (PackageSet.mem_sharing_iff.mp sharing)

theorem joins_least : IsLeast {feeds | Saturated decision candidates optimization set feeds}
    {feed | Joins decision candidates optimization set feed} :=
  ⟨joins_saturated, fun _ saturated _ joins => Saturated.mem_of_joins saturated joins⟩

end

end Widening

namespace Decision

theorem widen_of_subset {decision : Decision} {candidates : List Candidate}
    {optimization : Optimization} {set : PackageSet}
    (eligible : decision.feeds ⊆ candidates.map (·.feed))
    (none_new : (decision.widen candidates optimization set).feeds ⊆ decision.feeds) :
    decision.widen candidates optimization set = decision := by
  by_cases empty : decision.feeds = []
  · exact widen_empty empty candidates optimization set
  apply widen_of_joins
  intro feed joins
  exact none_new ((mem_widen_iff eligible).mpr ⟨empty, joins⟩)

/-- Widening a selection of candidates that is not empty makes it the least saturated set, and ends
there: more sweeps would change nothing. No selected feed is lost, and only candidates are added; if
any is, the feeds stand in the order of the candidates. -/
theorem widen_least (decision : Decision) (candidates : List Candidate)
    (optimization : Optimization) (set : PackageSet) (updates : decision.feeds ≠ [])
    (eligible : decision.feeds ⊆ candidates.map (·.feed)) :
    let feeds := (decision.widen candidates optimization set).feeds
    IsLeast {saturated | Widening.Saturated decision candidates optimization set saturated}
      {feed | feed ∈ feeds} ∧
    (∀ state more, Widening.spread set candidates (candidates.length + more) state =
      Widening.spread set candidates candidates.length state) ∧
    decision.feeds ⊆ feeds ∧ feeds ⊆ candidates.map (·.feed) ∧
    (feeds ⊆ decision.feeds → decision.widen candidates optimization set = decision) ∧
    (¬feeds ⊆ decision.feeds → feeds.Sublist (candidates.map (·.feed))) := by
  intro feeds
  have joined : {feed | feed ∈ feeds} =
      {feed | Widening.Joins decision candidates optimization set feed} := by
    ext feed
    exact (mem_widen_iff eligible).trans (and_iff_right updates)
  refine ⟨?_, ?_, subset_widen eligible _ _, widen_subset eligible _ _, ?_, ?_⟩
  · rw [joined]
    exact Widening.joins_least
  · intro state more
    exact Widening.spread_settled (List.length_filter_le _ _) more
  · intro none_new
    exact widen_of_subset eligible none_new
  · intro grown
    rcases decision.widen_feeds candidates optimization set with same | rebuilt
    · have none_new : feeds ⊆ decision.feeds := by
        intro feed member
        exact same ▸ member
      exact absurd none_new grown
    · change (decision.widen candidates optimization set).feeds.Sublist _
      rw [rebuilt]
      exact List.filter_sublist

/-- A feed in sync with the daily one joins, and with it the feed of its package. -/
theorem widen_least_daily :
    let decision : Decision := { feeds := ["BTC"], heartbeats := [86400000] }
    let candidates : List Candidate :=
      [⟨"ETH", some 3600000⟩, ⟨"BTC", some 86400000⟩, ⟨"SOL", none⟩, ⟨"USDC", none⟩]
    let optimization : Optimization := { syncHeartbeats := true }
    let package (feeds : List FeedId) : Package :=
      ⟨"", 2000, FixedBytes.ofNat 20 1, feeds.map fun feed => { feed, value := 1.0 }, []⟩
    let set : PackageSet := FeedMap.ofList [("BTC", [package ["BTC"]]),
      ("ETH", [package ["ETH", "USDC"]]), ("SOL", [package ["SOL"]]),
      ("USDC", [package ["ETH", "USDC"]])]
    decision.feeds ≠ [] ∧ decision.feeds ⊆ candidates.map (·.feed) ∧
      (decision.widen candidates optimization set).feeds = ["ETH", "BTC", "USDC"] ∧
      IsLeast {saturated | Widening.Saturated decision candidates optimization set saturated}
        {feed | feed ∈ ["ETH", "BTC", "USDC"]} := by
  intro decision candidates optimization package set
  have updates : decision.feeds ≠ [] := by simp [decision]
  have eligible : decision.feeds ⊆ candidates.map (·.feed) := by simp [decision, candidates]
  have widened : (decision.widen candidates optimization set).feeds = ["ETH", "BTC", "USDC"] := by
    decide +kernel
  refine ⟨updates, eligible, widened, ?_⟩
  rw [← widened]
  exact (widen_least decision candidates optimization set updates eligible).1

end Decision

end PriceRelay
