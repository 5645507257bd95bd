import PriceRelay.Decision.Widening
/-!
What widening may do to a selection: it keeps what was selected, adds nothing but candidates, and
leaves a selection alone that is empty or that no sweep is configured for.
-/

namespace PriceRelay

namespace Widening

variable {reason? : List FeedId → Candidate → Option String}

theorem sweep_cons (state : State) (candidate : Candidate) (rest : List Candidate) :
    sweep reason? state (candidate :: rest) =
      sweep reason? (sweep reason? state [candidate]) rest := rfl

theorem sweep_single (reason? : List FeedId → Candidate → Option String) (state : State)
    (candidate : Candidate) :
    (sweep reason? state [candidate]).selected = state.selected ∨
      (sweep reason? state [candidate]).selected = state.selected ++ [candidate.feed] := by
  simp only [sweep, List.foldl_cons, List.foldl_nil]
  split
  · exact .inl rfl
  · split
    · exact .inl rfl
    · exact .inr rfl

/-- A sweep puts feeds behind those that were selected, each of them new and of a candidate. -/
theorem sweep_eq_append (reason? : List FeedId → Candidate → Option String) (state : State)
    (candidates : List Candidate) :
    ∃ joined, (sweep reason? state candidates).selected = state.selected ++ joined ∧
      ∀ feed ∈ joined, feed ∉ state.selected ∧ feed ∈ candidates.map (·.feed) := by
  induction candidates generalizing state with
  | nil => exact ⟨[], by simp [sweep], by simp⟩
  | cons candidate rest ih =>
    obtain ⟨joined, same, new⟩ := ih (sweep reason? state [candidate])
    rw [sweep_cons, same]
    by_cases added : (sweep reason? state [candidate]).selected = state.selected
    · rw [added] at new ⊢
      refine ⟨joined, rfl, fun feed member => ?_⟩
      obtain ⟨absent, among⟩ := new feed member
      exact ⟨absent, List.mem_cons_of_mem _ among⟩
    · have absent : candidate.feed ∉ state.selected := by
        intro present
        simp [sweep, present] at added
      rw [(sweep_single reason? state candidate).resolve_left added] at new ⊢
      refine ⟨candidate.feed :: joined, by simp, fun feed member => ?_⟩
      rcases List.mem_cons.mp member with rfl | later
      · exact ⟨absent, List.mem_cons_self⟩
      · obtain ⟨unseen, among⟩ := new feed later
        simp only [List.mem_append, not_or] at unseen
        exact ⟨unseen.1, List.mem_cons_of_mem _ among⟩

/-- A selection with feeds put behind it that it did not have. -/
def Grows (selected later : List FeedId) : Prop :=
  ∃ joined, later = selected ++ joined ∧ ∀ feed ∈ joined, feed ∉ selected

namespace Grows

variable {selected later last : List FeedId}

theorem refl (selected : List FeedId) : Grows selected selected := ⟨[], by simp, by simp⟩

theorem trans (first : Grows selected later) (second : Grows later last) :
    Grows selected last := by
  obtain ⟨joined, rfl, new⟩ := first
  obtain ⟨further, rfl, newer⟩ := second
  refine ⟨joined ++ further, List.append_assoc .., fun feed member present => ?_⟩
  rcases List.mem_append.mp member with early | late
  · exact new feed early present
  · exact newer feed late (List.mem_append_left _ present)

theorem isPrefix (grows : Grows selected later) : selected <+: later := by
  obtain ⟨joined, same, _⟩ := grows
  exact ⟨joined, same.symm⟩

theorem eq_of_subset (grows : Grows selected later) (none_new : later ⊆ selected) :
    later = selected := by
  obtain ⟨joined, rfl, new⟩ := grows
  have nothing : joined = [] := by
    apply List.eq_nil_iff_forall_not_mem.mpr
    intro feed member
    exact new feed member (none_new (List.mem_append_right _ member))
  simp [nothing]

end Grows

theorem grows_sweep (state : State) (candidates : List Candidate) :
    Grows state.selected (sweep reason? state candidates).selected := by
  obtain ⟨joined, same, new⟩ := sweep_eq_append reason? state candidates
  exact ⟨joined, same, fun feed member => (new feed member).1⟩

theorem grows_spread (set : PackageSet) (candidates : List Candidate) (fuel : Nat)
    (state : State) : Grows state.selected (spread set candidates fuel state).selected := by
  induction fuel generalizing state with
  | zero => exact .refl _
  | succ fuel ih =>
    rw [spread]
    split
    · exact .refl _
    · exact (grows_sweep state candidates).trans (ih _)

/-- The selection after the sweeps for ratios and heartbeats. -/
def opened (decision : Decision) (candidates : List Candidate) (optimization : Optimization) :
    State :=
  let state : State := { selected := decision.feeds }
  let state := match optimization.threshold? with
    | some threshold => sweep (fun _ => nearThreshold? decision.ratios threshold) state candidates
    | none => state
  if optimization.syncHeartbeats then
    sweep (fun _ => inSync? decision.heartbeats) state candidates
  else state

theorem run_eq (decision : Decision) (candidates : List Candidate) (optimization : Optimization)
    (set : PackageSet) :
    run decision candidates optimization set =
      if optimization.isEnabled then
        spread set candidates candidates.length (opened decision candidates optimization)
      else opened decision candidates optimization := rfl

/-- What the selection has at first and every sweep keeps, the opened selection has. -/
theorem opened_keeps {decision : Decision} {candidates : List Candidate}
    {optimization : Optimization} (holds : State → Prop)
    (start : holds { selected := decision.feeds })
    (swept : ∀ (reason? : Candidate → Option String) (state : State), holds state →
      holds (sweep (fun _ => reason?) state candidates)) :
    holds (opened decision candidates optimization) := by
  unfold opened
  cases optimization.threshold? with
  | none =>
    dsimp only
    split
    · exact swept _ _ start
    · exact start
  | some threshold =>
    dsimp only
    split
    · exact swept _ _ (swept _ _ start)
    · exact swept _ _ start

theorem grows_opened (decision : Decision) (candidates : List Candidate)
    (optimization : Optimization) :
    Grows decision.feeds (opened decision candidates optimization).selected := by
  apply opened_keeps fun state => Grows decision.feeds state.selected
  · exact .refl _
  · intro reason? state grown
    exact grown.trans (grows_sweep state candidates)

theorem grows_run (decision : Decision) (candidates : List Candidate)
    (optimization : Optimization) (set : PackageSet) :
    Grows decision.feeds (run decision candidates optimization set).selected := by
  have first := grows_opened decision candidates optimization
  rw [run_eq]
  split
  · exact first.trans (grows_spread set candidates _ _)
  · exact first

theorem run_disabled (decision : Decision) (candidates : List Candidate)
    {optimization : Optimization} (disabled : optimization.isEnabled = false) (set : PackageSet) :
    run decision candidates optimization set = { selected := decision.feeds } := by
  obtain ⟨noThreshold, noSync⟩ :
      optimization.threshold? = none ∧ optimization.syncHeartbeats = false := by
    simpa [Optimization.isEnabled] using disabled
  simp [run, noThreshold, noSync, disabled]

end Widening

namespace Decision

/-- Widening leaves a decision as it is, or puts the selected candidates in the place of its
feeds. -/
theorem widen_unchanged_or (decision : Decision) (candidates : List Candidate)
    (optimization : Optimization) (set : PackageSet) :
    decision.widen candidates optimization set = decision ∨
      (decision.widen candidates optimization set).feeds =
        (candidates.map (·.feed)).filter
          ((Widening.run decision candidates optimization set).selected.contains ·) := by
  unfold widen
  split
  · exact .inl rfl
  · dsimp only
    split
    · exact .inl rfl
    · exact .inr rfl

theorem widen_feeds (decision : Decision) (candidates : List Candidate)
    (optimization : Optimization) (set : PackageSet) :
    (decision.widen candidates optimization set).feeds = decision.feeds ∨
      (decision.widen candidates optimization set).feeds =
        (candidates.map (·.feed)).filter
          ((Widening.run decision candidates optimization set).selected.contains ·) :=
  (decision.widen_unchanged_or candidates optimization set).imp (congrArg Decision.feeds) id

theorem widen_sublist {decision : Decision} {candidates : List Candidate} {order : List FeedId}
    (selected : decision.feeds.Sublist order) (ordered : (candidates.map (·.feed)).Sublist order)
    (optimization : Optimization) (set : PackageSet) :
    (decision.widen candidates optimization set).feeds.Sublist order := by
  rcases decision.widen_feeds candidates optimization set with same | rebuilt
  · rw [same]
    exact selected
  · rw [rebuilt]
    exact List.filter_sublist.trans ordered

theorem widen_subset {decision : Decision} {candidates : List Candidate}
    (eligible : decision.feeds ⊆ candidates.map (·.feed)) (optimization : Optimization)
    (set : PackageSet) :
    (decision.widen candidates optimization set).feeds ⊆ candidates.map (·.feed) := by
  rcases decision.widen_feeds candidates optimization set with same | rebuilt
  · rw [same]
    exact eligible
  · rw [rebuilt]
    exact List.filter_sublist.subset

theorem subset_widen {decision : Decision} {candidates : List Candidate}
    (eligible : decision.feeds ⊆ candidates.map (·.feed)) (optimization : Optimization)
    (set : PackageSet) :
    decision.feeds ⊆ (decision.widen candidates optimization set).feeds := by
  rcases decision.widen_feeds candidates optimization set with same | rebuilt
  · rw [same]
    exact List.Subset.refl _
  · intro feed member
    rw [rebuilt]
    refine List.mem_filter.mpr ⟨eligible member, ?_⟩
    simpa using (Widening.grows_run decision candidates optimization set).isPrefix.subset member

/-- Widening changes the feeds and what is said of them, and nothing else. -/
theorem widen_eq (decision : Decision) (candidates : List Candidate) (optimization : Optimization)
    (set : PackageSet) : ∃ feeds messages,
      decision.widen candidates optimization set = { decision with feeds, messages } := by
  unfold widen
  split
  · exact ⟨_, _, rfl⟩
  · dsimp only
    split
    · exact ⟨_, _, rfl⟩
    · exact ⟨_, _, rfl⟩

theorem widen_empty {decision : Decision} (empty : decision.feeds = [])
    (candidates : List Candidate) (optimization : Optimization) (set : PackageSet) :
    decision.widen candidates optimization set = decision := by
  simp [widen, empty]

theorem widen_disabled (decision : Decision) (candidates : List Candidate)
    {optimization : Optimization} (disabled : optimization.isEnabled = false) (set : PackageSet) :
    decision.widen candidates optimization set = decision := by
  simp [widen, Widening.run_disabled decision candidates disabled set]

end Decision

end PriceRelay
