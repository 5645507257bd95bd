import PriceRelay.Proofs.Decision.Widening
/-!
What widening comes to: the least set of feeds that has the selection, the candidates with a reason
of their own, and every candidate that shares a package with a feed of the set.
-/

namespace PriceRelay

namespace Widening

variable {reason? : List FeedId → Candidate → Option String} {candidates : List Candidate}
  {set : PackageSet}

/-- Whatever holds of the selected feeds and of every feed that has a reason to join them holds
after a sweep. -/
theorem sweep_forall {holds : FeedId → Prop} {state : State}
    (joins : ∀ selected, (∀ feed ∈ selected, holds feed) → ∀ candidate ∈ candidates,
      (reason? selected candidate).isSome = true → holds candidate.feed)
    (start : ∀ feed ∈ state.selected, holds feed) :
    ∀ feed ∈ (sweep reason? state candidates).selected, holds feed := by
  induction candidates generalizing state with
  | nil => exact start
  | cons candidate rest ih =>
    rw [sweep_cons]
    apply ih fun selected known other member => joins selected known other (.tail _ member)
    simp only [sweep, List.foldl_cons, List.foldl_nil]
    split
    · exact start
    · cases reason : reason? state.selected candidate with
      | none => exact start
      | some text =>
        have joined : holds candidate.feed :=
          joins state.selected start candidate List.mem_cons_self (by simp [reason])
        intro feed member
        rcases List.mem_append.mp member with old | new
        · exact start feed old
        · exact List.mem_singleton.mp new ▸ joined

/-- A candidate whose reason holds at the start, and goes on to hold, joins in a sweep. -/
theorem mem_sweep {state : State} {candidate : Candidate} (among : candidate ∈ candidates)
    (reason : ∀ selected, state.selected ⊆ selected →
      (reason? selected candidate).isSome = true) :
    candidate.feed ∈ (sweep reason? state candidates).selected := by
  induction candidates generalizing state with
  | nil => cases among
  | cons first rest ih =>
    rw [sweep_cons]
    have kept : state.selected ⊆ (sweep reason? state [first]).selected :=
      (grows_sweep state [first]).isPrefix.subset
    rcases List.mem_cons.mp among with rfl | later
    · have joined : candidate.feed ∈ (sweep reason? state [candidate]).selected := by
        have holds := reason state.selected (List.Subset.refl _)
        by_cases present : candidate.feed ∈ state.selected
        · exact kept present
        · obtain ⟨text, found⟩ := Option.isSome_iff_exists.mp holds
          simp [sweep, present, found]
      exact (grows_sweep _ rest).isPrefix.subset joined
    · exact ih later fun selected larger => reason selected (List.Subset.trans kept larger)

theorem mem_sweep_iff {reason? : Candidate → Option String} {state : State} {feed : FeedId} :
    feed ∈ (sweep (fun _ => reason?) state candidates).selected ↔
      feed ∈ state.selected ∨
        ∃ candidate ∈ candidates, candidate.feed = feed ∧ (reason? candidate).isSome = true := by
  constructor
  · apply sweep_forall
    · intro _ _ candidate among reason
      exact .inr ⟨candidate, among, rfl, reason⟩
    · intro feed member
      exact .inl member
  · rintro (member | ⟨candidate, among, rfl, reason⟩)
    · exact (grows_sweep state candidates).isPrefix.subset member
    · exact mem_sweep among fun _ _ => reason

/-- The selection has every candidate that shares a package with one of its feeds. -/
def Closed (set : PackageSet) (candidates : List Candidate) (selected : List FeedId) : Prop :=
  ∀ candidate ∈ candidates, ∀ other ∈ set.sharing candidate.feed, other ∈ selected →
    candidate.feed ∈ selected

theorem shared?_isSome_iff {selected : List FeedId} {candidate : Candidate} :
    (shared? set selected candidate).isSome = true ↔
      ∃ other ∈ set.sharing candidate.feed, other ∈ selected := by
  simp [shared?]

/-- A sweep for shared packages that adds nothing finds the selection closed. -/
theorem closed_of_sweep {state : State}
    (same : (sweep (shared? set) state candidates).selected.length = state.selected.length) :
    Closed set candidates state.selected := by
  obtain ⟨joined, grown, _⟩ := sweep_eq_append (shared? set) state candidates
  have nothing : joined = [] := by
    rw [grown, List.length_append] at same
    exact List.length_eq_zero_iff.mp (by omega)
  rw [nothing, List.append_nil] at grown
  intro candidate among other sharing selected
  rw [← grown]
  apply mem_sweep among
  intro larger includes
  exact shared?_isSome_iff.mpr ⟨other, sharing, includes selected⟩

def waiting (candidates : List Candidate) (selected : List FeedId) : List Candidate :=
  candidates.filter fun candidate => !selected.contains candidate.feed

theorem length_waiting_sweep_lt {state : State}
    (grown : (sweep reason? state candidates).selected.length ≠ state.selected.length) :
    (waiting candidates (sweep reason? state candidates).selected).length <
      (waiting candidates state.selected).length := by
  obtain ⟨joined, same, new⟩ := sweep_eq_append reason? state candidates
  rw [same] at grown ⊢
  have still : waiting candidates (state.selected ++ joined) =
      (waiting candidates state.selected).filter fun candidate =>
        !(state.selected ++ joined).contains candidate.feed := by
    rw [waiting, waiting, List.filter_filter]
    apply List.filter_congr
    intro candidate _
    by_cases present : candidate.feed ∈ state.selected <;> simp [present]
  rw [still, List.length_filter_lt_length_iff_exists]
  obtain ⟨feed, member⟩ : ∃ feed, feed ∈ joined := by
    apply List.exists_mem_of_ne_nil
    rintro rfl
    simp at grown
  obtain ⟨absent, among⟩ := new feed member
  obtain ⟨candidate, present, rfl⟩ := List.mem_map.mp among
  refine ⟨candidate, ?_, by simp [member]⟩
  exact List.mem_filter.mpr ⟨present, by simpa using absent⟩

/-- Sweeping for shared packages ends with a closed selection, if there are as many sweeps as
candidates that wait. -/
theorem spread_closed {fuel : Nat} {state : State}
    (enough : (waiting candidates state.selected).length ≤ fuel) :
    Closed set candidates (spread set candidates fuel state).selected := by
  induction fuel generalizing state with
  | zero =>
    have none_waits : waiting candidates state.selected = [] :=
      List.length_eq_zero_iff.mp (Nat.le_zero.mp enough)
    intro candidate among _ _ _
    have selected := List.filter_eq_nil_iff.mp none_waits candidate among
    simpa [spread] using selected
  | succ fuel ih =>
    rw [spread]
    split
    · rename_i same
      exact closed_of_sweep same
    · rename_i grown
      have fewer := length_waiting_sweep_lt grown
      exact ih (by omega)

theorem spread_forall {holds : FeedId → Prop}
    (closed : ∀ candidate ∈ candidates, ∀ other ∈ set.sharing candidate.feed, holds other →
      holds candidate.feed) {fuel : Nat} {state : State}
    (start : ∀ feed ∈ state.selected, holds feed) :
    ∀ feed ∈ (spread set candidates fuel state).selected, holds feed := by
  induction fuel generalizing state with
  | zero => exact start
  | succ fuel ih =>
    rw [spread]
    split
    · exact start
    · apply ih
      apply sweep_forall _ start
      intro selected known candidate among reason
      obtain ⟨other, sharing, member⟩ := shared?_isSome_iff.mp reason
      exact closed candidate among other sharing (known other member)

/-- A feed is selected, or it is a candidate with a reason to join. -/
inductive Joins (decision : Decision) (candidates : List Candidate) (optimization : Optimization)
    (set : PackageSet) : FeedId → Prop where
  | selected {feed : FeedId} (chosen : feed ∈ decision.feeds) :
      Joins decision candidates optimization set feed
  /-- Its recorded ratio reaches the threshold. -/
  | near {candidate : Candidate} {threshold ratio : Float} (among : candidate ∈ candidates)
      (limit : optimization.threshold? = some threshold)
      (recorded : decision.ratios.find? candidate.feed = some ratio)
      (reached : threshold ≤ ratio) :
      Joins decision candidates optimization set candidate.feed
  /-- Its heartbeat goes with one that fired. -/
  | synced {candidate : Candidate} {interval fired : Millis} (among : candidate ∈ candidates)
      (enabled : optimization.syncHeartbeats = true)
      (own : candidate.heartbeat? = some interval) (passed : fired ∈ decision.heartbeats)
      (sync : inSync interval fired = true) :
      Joins decision candidates optimization set candidate.feed
  /-- It shares a package with a feed that is written. -/
  | shared {candidate : Candidate} {other : FeedId} (among : candidate ∈ candidates)
      (enabled : optimization.isEnabled = true)
      (sharing : other ∈ set.sharing candidate.feed)
      (joined : Joins decision candidates optimization set other) :
      Joins decision candidates optimization set candidate.feed

theorem Joins.selected_or_candidate {decision : Decision} {optimization : Optimization}
    {feed : FeedId} (joins : Joins decision candidates optimization set feed) :
    feed ∈ decision.feeds ∨ feed ∈ candidates.map (·.feed) := by
  cases joins with
  | selected chosen => exact .inl chosen
  | near among => exact .inr (List.mem_map_of_mem among)
  | synced among => exact .inr (List.mem_map_of_mem among)
  | shared among => exact .inr (List.mem_map_of_mem among)

theorem nearThreshold?_isSome_iff {ratios : FeedMap Float} {threshold : Float}
    {candidate : Candidate} :
    (nearThreshold? ratios threshold candidate).isSome = true ↔
      ∃ ratio, ratios.find? candidate.feed = some ratio ∧ threshold ≤ ratio := by
  unfold nearThreshold?
  cases ratios.find? candidate.feed with
  | none => simp
  | some ratio => by_cases reached : threshold ≤ ratio <;> simp [reached]

theorem inSync?_isSome_iff {fired : List Millis} {candidate : Candidate} :
    (inSync? fired candidate).isSome = true ↔
      ∃ interval, candidate.heartbeat? = some interval ∧
        ∃ other ∈ fired, inSync interval other = true := by
  unfold inSync?
  cases candidate.heartbeat? with
  | none => simp
  | some interval => simp

theorem mem_opened_iff {decision : Decision} {optimization : Optimization} {feed : FeedId} :
    feed ∈ (opened decision candidates optimization).selected ↔
      feed ∈ decision.feeds ∨
        (∃ candidate ∈ candidates, candidate.feed = feed ∧ ∃ threshold,
          optimization.threshold? = some threshold ∧
          (nearThreshold? decision.ratios threshold candidate).isSome = true) ∨
        ∃ candidate ∈ candidates, candidate.feed = feed ∧ optimization.syncHeartbeats = true ∧
          (inSync? decision.heartbeats candidate).isSome = true := by
  unfold opened
  cases limit : optimization.threshold? with
  | none => by_cases sync : optimization.syncHeartbeats = true <;> simp [sync, mem_sweep_iff]
  | some threshold =>
    by_cases sync : optimization.syncHeartbeats = true <;> simp [sync, mem_sweep_iff, or_assoc]

/-- Widening selects the feeds that join, and no others. -/
theorem mem_run_iff {decision : Decision} {optimization : Optimization} {feed : FeedId} :
    feed ∈ (run decision candidates optimization set).selected ↔
      Joins decision candidates optimization set feed := by
  constructor
  · have first : ∀ feed ∈ (opened decision candidates optimization).selected,
        Joins decision candidates optimization set feed := by
      intro feed member
      rcases mem_opened_iff.mp member with chosen | ⟨candidate, among, rfl, threshold, limit, reason⟩ |
        ⟨candidate, among, rfl, enabled, reason⟩
      · exact .selected chosen
      · obtain ⟨ratio, recorded, reached⟩ := nearThreshold?_isSome_iff.mp reason
        exact .near among limit recorded reached
      · obtain ⟨interval, own, fired, passed, sync⟩ := inSync?_isSome_iff.mp reason
        exact .synced among enabled own passed sync
    rw [run_eq]
    split
    · rename_i enabled
      apply spread_forall _ first
      intro candidate among other sharing joined
      exact .shared among enabled sharing joined
    · exact first feed
  · intro joins
    have later : (opened decision candidates optimization).selected ⊆
        (run decision candidates optimization set).selected := by
      rw [run_eq]
      split
      · exact (grows_spread set candidates _ _).isPrefix.subset
      · exact List.Subset.refl _
    induction joins with
    | selected chosen => exact later (mem_opened_iff.mpr (.inl chosen))
    | near among limit recorded reached =>
      have reason := nearThreshold?_isSome_iff.mpr ⟨_, recorded, reached⟩
      exact later (mem_opened_iff.mpr (.inr (.inl ⟨_, among, rfl, _, limit, reason⟩)))
    | synced among enabled own passed sync =>
      have reason := inSync?_isSome_iff.mpr ⟨_, own, _, passed, sync⟩
      exact later (mem_opened_iff.mpr (.inr (.inr ⟨_, among, rfl, enabled, reason⟩)))
    | @shared candidate other among enabled sharing joined ih =>
      have closed : Closed set candidates
          (run decision candidates optimization set).selected := by
        rw [run_eq, if_pos enabled]
        exact spread_closed (List.length_filter_le _ _)
      exact closed candidate among other sharing ih

end Widening

namespace Decision

theorem widen_of_joins {decision : Decision} {candidates : List Candidate}
    {optimization : Optimization} {set : PackageSet} (none_new : ∀ feed,
      Widening.Joins decision candidates optimization set feed → feed ∈ decision.feeds) :
    decision.widen candidates optimization set = decision := by
  have same : (Widening.run decision candidates optimization set).selected = decision.feeds := by
    apply (Widening.grows_run decision candidates optimization set).eq_of_subset
    intro feed member
    exact none_new feed (Widening.mem_run_iff.mp member)
  simp [widen, same]

theorem mem_widen_iff {decision : Decision} {candidates : List Candidate}
    (eligible : decision.feeds ⊆ candidates.map (·.feed)) {optimization : Optimization}
    {set : PackageSet} {feed : FeedId} :
    feed ∈ (decision.widen candidates optimization set).feeds ↔
      decision.feeds ≠ [] ∧ Widening.Joins decision candidates optimization set feed := by
  by_cases empty : decision.feeds = []
  · simp [widen_empty empty, empty]
  rw [← Widening.mem_run_iff, and_iff_right empty]
  have listed := (Widening.grows_run decision candidates optimization set).isPrefix
  unfold widen
  rw [if_neg (by simpa using empty)]
  dsimp only
  split
  · rename_i same
    rw [listed.eq_of_length same.symm]
  · simp only [List.mem_filter, List.contains_iff_mem, and_iff_right_iff_imp]
    intro member
    rcases (Widening.mem_run_iff.mp member).selected_or_candidate with chosen | among
    · exact eligible chosen
    · exact among

end Decision

end PriceRelay
