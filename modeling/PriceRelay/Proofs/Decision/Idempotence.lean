import PriceRelay.Proofs.Decision.Closure
/-!
Widening twice. A feed with a reason to join the widened feeds had a reason to join the selection
already, so a second pass finds nothing that waits, and says nothing.
-/

namespace PriceRelay

namespace Widening

variable {decision : Decision} {candidates : List Candidate} {optimization : Optimization}
  {set : PackageSet}

/-- Whatever joins feeds that have joined joins with them. The reasons of a candidate's own are the
recorded ratios and heartbeats, which have to be the same. -/
theorem Joins.of_joined {later : Decision}
    (joined : ∀ feed ∈ later.feeds, Joins decision candidates optimization set feed)
    (ratios : later.ratios = decision.ratios) (heartbeats : later.heartbeats = decision.heartbeats)
    {feed : FeedId} (joins : Joins later candidates optimization set feed) :
    Joins decision candidates optimization set feed := by
  induction joins with
  | selected chosen => exact joined _ chosen
  | near among limit recorded reached => exact .near among limit (ratios ▸ recorded) reached
  | synced among enabled own passed sync =>
    exact .synced among enabled own (heartbeats ▸ passed) sync
  | shared among enabled sharing _ ih => exact .shared among enabled sharing ih

end Widening

namespace Decision

/-- Widening a second time changes nothing: the feeds, their order and what is said of them stay as
the first time left them. The selection need not be of candidates. -/
theorem widen_widen (decision : Decision) (candidates : List Candidate)
    (optimization : Optimization) (set : PackageSet) :
    (decision.widen candidates optimization set).widen candidates optimization set =
      decision.widen candidates optimization set := by
  rcases decision.widen_unchanged_or candidates optimization set with same | rebuilt
  · rw [same, same]
  obtain ⟨feeds, messages, widened⟩ := decision.widen_eq candidates optimization set
  have mem_iff : ∀ feed, feed ∈ (decision.widen candidates optimization set).feeds ↔
      feed ∈ candidates.map (·.feed) ∧
        Widening.Joins decision candidates optimization set feed := by
    intro feed
    rw [rebuilt, List.mem_filter, List.contains_iff_mem, Widening.mem_run_iff]
  apply widen_of_joins
  intro feed joins
  rcases joins.selected_or_candidate with chosen | among
  · exact chosen
  · refine (mem_iff feed).mpr ⟨among, ?_⟩
    apply joins.of_joined
    · intro other member
      exact ((mem_iff other).mp member).2
    · rw [widened]
    · rw [widened]

end Decision

end PriceRelay
