import PriceRelay.Proofs.Decision.Saturation
import PriceRelay.Proofs.Packages.FirstSigners
/-!
Joining for a shared package. A candidate joins if one of its own packages carries a selected feed.
What is sent anyway are the packages of the selected feeds, and these need not carry the candidate;
nor does a candidate join that they carry, unless its own packages carry one of the feeds in turn.
Both come to the same exactly where one feed's packages carry another if the other's carry the one.
-/

namespace PriceRelay

namespace PackageSet

/-- What is sent for a feed brings another one: some package listed under it carries the other. -/
def Brings (set : PackageSet) (feed other : FeedId) : Prop :=
  ∃ package ∈ set.listed feed, package.carries other = true

theorem Brings.listed {set : PackageSet} {feed other : FeedId} (brings : set.Brings feed other) :
    set.listed feed ≠ [] := by
  obtain ⟨package, among, _⟩ := brings
  exact List.ne_nil_of_mem among

end PackageSet

namespace Widening

/-- A feed that joins, and the selected feed that is named as sharing a package with it. -/
structure Join where
  feed : FeedId
  other : FeedId

def Join.message (join : Join) : String :=
  let reason := s!"delivered by the same data package as {join.other}"
  s!"Feed {join.feed} added for gas optimization: {reason}"

def State.join (state : State) (joins : List Join) : State where
  selected := state.selected ++ joins.map (·.feed)
  messages := state.messages ++ joins.map (·.message)

theorem State.join_nil (state : State) : state.join [] = state := by
  simp [State.join]

theorem State.join_append (state : State) (first second : List Join) :
    state.join (first ++ second) = (state.join first).join second := by
  simp [State.join, List.append_assoc]

/-- A feed may join a selection: it is the feed of a candidate that waits, and one of its packages
carries the selected feed that is named. -/
structure Permitted (set : PackageSet) (candidates : List Candidate) (selected : List FeedId)
    (join : Join) : Prop where
  candidate : join.feed ∈ candidates.map (·.feed)
  waits : join.feed ∉ selected
  named : join.other ∈ selected
  shares : set.Shares join.feed join.other

def InTurn (set : PackageSet) (candidates : List Candidate) (start : State) (joins : List Join) :
    Prop :=
  ∀ earlier join later, joins = earlier ++ join :: later →
    Permitted set candidates (start.join earlier).selected join

variable {set : PackageSet} {candidates : List Candidate}

theorem inTurn_nil (start : State) : InTurn set candidates start [] := by
  intro earlier join later split
  simp at split

theorem inTurn_cons_iff {start : State} {join : Join} {joins : List Join} :
    InTurn set candidates start (join :: joins) ↔
      Permitted set candidates start.selected join ∧
        InTurn set candidates (start.join [join]) joins := by
  constructor
  · intro inTurn
    constructor
    · have first := inTurn [] join joins rfl
      rwa [State.join_nil] at first
    · intro earlier next later split
      have turn := inTurn (join :: earlier) next later (by rw [split]; rfl)
      rwa [← List.singleton_append, State.join_append] at turn
  · rintro ⟨permitted, rest⟩ earlier next later split
    cases earlier with
    | nil =>
      obtain ⟨rfl, _⟩ := List.cons.inj split
      rwa [State.join_nil]
    | cons head earlier =>
      obtain ⟨rfl, tail⟩ := List.cons.inj split
      rw [← List.singleton_append, State.join_append]
      exact rest earlier next later tail

theorem InTurn.append {start : State} {first second : List Join}
    (begun : InTurn set candidates start first)
    (continued : InTurn set candidates (start.join first) second) :
    InTurn set candidates start (first ++ second) := by
  induction first generalizing start with
  | nil => rwa [State.join_nil] at continued
  | cons join first ih =>
    obtain ⟨permitted, rest⟩ := inTurn_cons_iff.mp begun
    refine inTurn_cons_iff.mpr ⟨permitted, ih rest ?_⟩
    rwa [← State.join_append]

/-- A candidate is left out, or it joins and names a selected feed with which it shares a package. -/
theorem sweep_single_inTurn (set : PackageSet) {all : List Candidate} {candidate : Candidate}
    (among : candidate ∈ all) (state : State) :
    ∃ joins, sweep (shared? set) state [candidate] = state.join joins ∧
      InTurn set all state joins := by
  by_cases present : candidate.feed ∈ state.selected
  · exact ⟨[], by simp [sweep, present, State.join], inTurn_nil state⟩
  cases reason : shared? set state.selected candidate with
  | none => exact ⟨[], by simp [sweep, present, reason, State.join], inTurn_nil state⟩
  | some text =>
    obtain ⟨other, found, rfl⟩ := Option.map_eq_some_iff.mp reason
    have named : other ∈ state.selected := by simpa using List.find?_some found
    have shares := PackageSet.mem_sharing_iff.mp (List.mem_of_find?_eq_some found)
    have permitted : Permitted set all state.selected ⟨candidate.feed, other⟩ :=
      ⟨List.mem_map_of_mem among, present, named, shares⟩
    refine ⟨[⟨candidate.feed, other⟩], ?_, inTurn_cons_iff.mpr ⟨permitted, inTurn_nil _⟩⟩
    simp [sweep, present, reason, State.join, Join.message]

theorem sweep_inTurn (set : PackageSet) {all : List Candidate} (among : candidates ⊆ all)
    (state : State) :
    ∃ joins, sweep (shared? set) state candidates = state.join joins ∧
      InTurn set all state joins := by
  induction candidates generalizing state with
  | nil => exact ⟨[], (State.join_nil state).symm, inTurn_nil state⟩
  | cons candidate rest ih =>
    obtain ⟨here, others⟩ := List.cons_subset.mp among
    obtain ⟨first, swept, begun⟩ := sweep_single_inTurn set here state
    obtain ⟨second, same, continued⟩ := ih others (state.join first)
    refine ⟨first ++ second, ?_, begun.append continued⟩
    rw [sweep_cons, swept, same, State.join_append]

theorem spread_inTurn (set : PackageSet) (candidates : List Candidate) (fuel : Nat)
    (state : State) :
    ∃ joins, spread set candidates fuel state = state.join joins ∧
      InTurn set candidates state joins := by
  induction fuel generalizing state with
  | zero => exact ⟨[], (State.join_nil state).symm, inTurn_nil state⟩
  | succ fuel ih =>
    rw [spread]
    split
    · exact ⟨[], (State.join_nil state).symm, inTurn_nil state⟩
    · obtain ⟨first, swept, begun⟩ := sweep_inTurn set (List.Subset.refl candidates) state
      obtain ⟨second, same, continued⟩ := ih (state.join first)
      refine ⟨first ++ second, ?_, begun.append continued⟩
      rw [swept, same, State.join_append]

section

variable (decision : Decision) (candidates : List Candidate) (set : PackageSet)

theorem run_inTurn {optimization : Optimization} (enabled : optimization.isEnabled = true) :
    ∃ joins, run decision candidates optimization set =
        (opened decision candidates optimization).join joins ∧
      InTurn set candidates (opened decision candidates optimization) joins := by
  rw [run_eq, if_pos enabled]
  exact spread_inTurn set candidates _ _

theorem sweep_tally (reason? : List FeedId → Candidate → Option String) (state : State) :
    (sweep reason? state candidates).selected.length + state.messages.length =
      state.selected.length + (sweep reason? state candidates).messages.length := by
  induction candidates generalizing state with
  | nil => rfl
  | cons candidate rest ih =>
    have one : (sweep reason? state [candidate]).selected.length + state.messages.length =
        state.selected.length + (sweep reason? state [candidate]).messages.length := by
      simp only [sweep, List.foldl_cons, List.foldl_nil]
      split
      · rfl
      · split
        · rfl
        · simp only [List.length_append, List.length_singleton]
          omega
    have others := ih (sweep reason? state [candidate])
    rw [sweep_cons]
    omega

theorem run_tally (optimization : Optimization) :
    (run decision candidates optimization set).selected.length =
      decision.feeds.length + (run decision candidates optimization set).messages.length := by
  have first : (opened decision candidates optimization).selected.length =
      decision.feeds.length + (opened decision candidates optimization).messages.length := by
    apply opened_keeps fun state =>
      state.selected.length = decision.feeds.length + state.messages.length
    · rfl
    · intro reason? state tally
      have swept := sweep_tally candidates (fun _ => reason?) state
      omega
  rw [run_eq]
  split
  · obtain ⟨joins, same, _⟩ := spread_inTurn set candidates candidates.length
      (opened decision candidates optimization)
    rw [same]
    simp only [State.join, List.length_append, List.length_map]
    omega
  · exact first

end

end Widening

namespace Decision

variable {decision : Decision} {candidates : List Candidate} {optimization : Optimization}
  {set : PackageSet}

/-- A widened decision tells first what it told before and then how each feed joined. -/
theorem widen_messages (candidates : List Candidate) (optimization : Optimization)
    (set : PackageSet) (updates : decision.feeds ≠ []) :
    ∃ last, (decision.widen candidates optimization set).messages = decision.messages ++
      (Widening.run decision candidates optimization set).messages ++ last := by
  unfold widen
  rw [if_neg (by simpa using updates)]
  dsimp only
  split
  · -- the decision is kept as it was, which loses no message: none was given
    rename_i same
    have tally := Widening.run_tally decision candidates set optimization
    have silent : (Widening.run decision candidates optimization set).messages = [] :=
      List.length_eq_zero_iff.mp (by omega)
    exact ⟨[], by simp [silent]⟩
  · exact ⟨_, rfl⟩

/-- With a feed a widened decision has the candidates whose own packages carry it. -/
theorem mem_widen_of_shares (eligible : decision.feeds ⊆ candidates.map (·.feed))
    (enabled : optimization.isEnabled = true) {candidate : Candidate}
    (among : candidate ∈ candidates) {other : FeedId}
    (written : other ∈ (decision.widen candidates optimization set).feeds)
    (shares : set.Shares candidate.feed other) :
    candidate.feed ∈ (decision.widen candidates optimization set).feeds := by
  obtain ⟨updates, joins⟩ := (mem_widen_iff eligible).mp written
  have sharing := PackageSet.mem_sharing_iff.mpr shares
  exact (mem_widen_iff eligible).mpr ⟨updates, .shared among enabled sharing joins⟩

end Decision

namespace Widening

/-- What joins for a shared package goes with what is sent: each feed that joins is carried by a
package of a feed that is selected by then, and every candidate that is so carried is written. -/
structure AsSent (set : PackageSet) (decision : Decision) (candidates : List Candidate)
    (optimization : Optimization) : Prop where
  sent : ∀ earlier feed later, (run decision candidates optimization set).selected =
      (opened decision candidates optimization).selected ++ (earlier ++ feed :: later) →
    ∃ other ∈ (opened decision candidates optimization).selected ++ earlier, set.Brings other feed
  complete : ∀ candidate ∈ candidates,
    ∀ other ∈ (decision.widen candidates optimization set).feeds, set.Brings other candidate.feed →
      candidate.feed ∈ (decision.widen candidates optimization set).feeds

section

variable {set : PackageSet} {known : FeedId → Prop}

/-- Where the known feeds that bring a feed are brought by it, joining goes with what is sent. -/
theorem asSent_of_symm
    (symm : ∀ feed other, known feed → known other → set.Brings feed other → set.Brings other feed)
    {decision : Decision} {candidates : List Candidate} {optimization : Optimization}
    (eligible : decision.feeds ⊆ candidates.map (·.feed))
    (all : ∀ candidate ∈ candidates, known candidate.feed)
    (enabled : optimization.isEnabled = true) :
    AsSent set decision candidates optimization where
  sent := by
    intro earlier feed later split
    obtain ⟨joins, same, inTurn⟩ := run_inTurn decision candidates set enabled
    have feeds : joins.map (·.feed) = earlier ++ feed :: later := by
      rw [same] at split
      exact List.append_cancel_left split
    obtain ⟨before, rest, rfl, rfl, others⟩ := List.map_eq_append_iff.mp feeds
    obtain ⟨join, after, rfl, rfl, _⟩ := List.map_eq_cons_iff.mp others
    have turn := inTurn before join after rfl
    refine ⟨join.other, turn.named, ?_⟩
    apply symm join.feed join.other _ _ turn.shares.carried
    · obtain ⟨candidate, among, own⟩ := List.mem_map.mp turn.candidate
      exact own ▸ all candidate among
    · have selected : join.other ∈ (run decision candidates optimization set).selected := by
        rw [split, ← List.append_assoc]
        exact List.mem_append_left _ turn.named
      have candidate : join.other ∈ candidates.map (·.feed) := by
        rcases (mem_run_iff.mp selected).selected_or_candidate with chosen | among
        · exact eligible chosen
        · exact among
      obtain ⟨candidate, among, own⟩ := List.mem_map.mp candidate
      exact own ▸ all candidate among
  complete := by
    intro candidate among other written brings
    by_cases same : other = candidate.feed
    · exact same ▸ written
    have candidates := Decision.widen_subset eligible optimization set written
    obtain ⟨own, ownAmong, ownFeed⟩ := List.mem_map.mp candidates
    -- a candidate joins by its own packages, so what is sent has to be turned around
    have back := symm other candidate.feed (ownFeed ▸ all own ownAmong) (all candidate among) brings
    exact Decision.mem_widen_of_shares eligible enabled among written ⟨same, brings.listed, back⟩

theorem brings_of_joins {feed other : FeedId} (different : other ≠ feed)
    (joins : Joins { feeds := [feed] } [⟨feed, none⟩, ⟨other, none⟩] { syncHeartbeats := true } set
      other) : set.Brings other feed := by
  have either : ∀ {own : FeedId}, Joins { feeds := [feed] } [⟨feed, none⟩, ⟨other, none⟩]
      { syncHeartbeats := true } set own → own = feed ∨ (own = other ∧ set.Brings other feed) := by
    intro own joins
    induction joins with
    | selected chosen => exact .inl (List.mem_singleton.mp chosen)
    | near _ limit => cases limit
    | synced among _ own =>
      rcases List.mem_pair.mp among with rfl | rfl <;> cases own
    | shared among _ sharing _ ih =>
      rcases List.mem_pair.mp among with rfl | rfl
      · exact .inl rfl
      · have shares := PackageSet.mem_sharing_iff.mp sharing
        rcases ih with rfl | ⟨_, brings⟩
        · exact .inr ⟨rfl, shares.carried⟩
        · exact .inr ⟨rfl, brings⟩
  rcases either joins with same | ⟨_, brings⟩
  · exact absurd same different
  · exact brings

end

end Widening

namespace Request

/-- Requested feeds that have one offer in common have all of them in common. -/
def Grouped (request : Request) (answer : List (String × List Package)) : Prop :=
  ∀ feed ∈ request.feeds, ∀ other ∈ request.feeds, ∀ package ∈ request.offers answer feed,
    package.carries other = true →
      ∀ rival, rival ∈ request.offers answer feed ↔ rival ∈ request.offers answer other

section

variable {request : Request} {answer : List (String × List Package)} {feed other : FeedId}

theorem listed_eq_of_offers (requested : feed ∈ request.feeds)
    (alsoRequested : other ∈ request.feeds)
    (same : ∀ package,
      package ∈ request.offers answer feed ↔ package ∈ request.offers answer other) :
    (request.select answer).listed feed = (request.select answer).listed other := by
  have ranked : request.rankedOffers answer feed = request.rankedOffers answer other := by
    apply List.filter_congr
    intro package candidate
    obtain ⟨answered, authorized⟩ := mem_candidates_iff.mp candidate
    have offered := same package
    rw [mem_offers_iff, mem_offers_iff, and_iff_right answered, and_iff_right answered,
      and_iff_right authorized, and_iff_right authorized] at offered
    exact Bool.eq_iff_iff.mpr offered
  have first : request.signerOffers answer feed = request.signerOffers answer other :=
    congrArg (Package.firstBy (·.signer) []) ranked
  rw [listed_select_take, listed_select_take, first]
  simp only [requested, alsoRequested]

theorem Grouped.brings_symm (grouped : request.Grouped answer) (requested : feed ∈ request.feeds)
    (alsoRequested : other ∈ request.feeds) (brings : (request.select answer).Brings feed other) :
    (request.select answer).Brings other feed := by
  obtain ⟨package, listed, carries⟩ := brings
  have offered := (request.listed_firstSigners answer feed).offered listed
  have same := grouped feed requested other alsoRequested package offered carries
  refine ⟨package, ?_, (mem_offers_iff.mp offered).2.2⟩
  rwa [← listed_eq_of_offers requested alsoRequested same]

end

/-- Feeds join in turn for a shared package: each is a candidate that waits, names a selected feed
that one of its own packages carries, and is told of; in the end no such candidate is left. For all
decisions about known feeds that is what goes with the packages that are sent, exactly if of two
known feeds the one brings the other whenever the other brings the one. Requested feeds do where
they come in groups. -/
theorem widen_shared (request : Request) (answer : List (String × List Package)) :
    let set := request.select answer
    (∀ (decision : Decision) (candidates : List Candidate) (optimization : Optimization),
      decision.feeds ≠ [] → decision.feeds ⊆ candidates.map (·.feed) →
      optimization.isEnabled = true →
      let start := Widening.opened decision candidates optimization
      let widened := decision.widen candidates optimization set
      (∃ joins last,
        Widening.run decision candidates optimization set = start.join joins ∧
        widened.messages = decision.messages ++ (start.join joins).messages ++ last ∧
        Widening.InTurn set candidates start joins) ∧
      ∀ candidate ∈ candidates, ∀ other ∈ widened.feeds, set.Shares candidate.feed other →
        candidate.feed ∈ widened.feeds) ∧
    (∀ known : FeedId → Prop,
      (∀ (decision : Decision) (candidates : List Candidate) (optimization : Optimization),
        decision.feeds ≠ [] → decision.feeds ⊆ candidates.map (·.feed) →
        (∀ candidate ∈ candidates, known candidate.feed) → optimization.isEnabled = true →
        Widening.AsSent set decision candidates optimization) ↔
      ∀ feed other, known feed → known other → set.Brings feed other → set.Brings other feed) ∧
    (request.Grouped answer → ∀ feed ∈ request.feeds, ∀ other ∈ request.feeds,
      set.Brings feed other → set.Brings other feed) := by
  intro set
  refine ⟨?_, fun known => ⟨?_, ?_⟩, ?_⟩
  · intro decision candidates optimization updates eligible enabled start widened
    obtain ⟨joins, same, inTurn⟩ := Widening.run_inTurn decision candidates set enabled
    obtain ⟨last, messages⟩ := Decision.widen_messages candidates optimization set updates
    rw [same] at messages
    exact ⟨⟨joins, last, same, messages, inTurn⟩, fun candidate among other written =>
      Decision.mem_widen_of_shares eligible enabled among written⟩
  · intro asSent feed other knownFeed knownOther brings
    by_cases same : other = feed
    · subst same
      exact brings
    have eligible : [feed] ⊆ [feed, other] := by simp
    -- two candidates and a decision for one of them tell of the other
    have complete := (asSent { feeds := [feed] } [⟨feed, none⟩, ⟨other, none⟩]
      { syncHeartbeats := true } (by simp) eligible (by simp [knownFeed, knownOther]) rfl).complete
    have written := complete ⟨other, none⟩ (by simp) feed
      (Decision.subset_widen eligible _ _ (List.mem_singleton.mpr rfl)) brings
    have joins := ((Decision.mem_widen_iff eligible).mp written).2
    exact Widening.brings_of_joins same joins
  · intro symm decision candidates optimization _ eligible all enabled
    exact Widening.asSent_of_symm symm eligible all enabled
  · intro grouped feed requested other alsoRequested
    exact grouped.brings_symm requested alsoRequested

/-- A package of two feeds lets the one join the other. -/
theorem widen_shared_together :
    let answer := [("primary", [samplePackage "MAIN" ["ETH", "BTC"]])]
    let decision : Decision := { feeds := ["BTC"] }
    let candidates : List Candidate := [⟨"ETH", none⟩, ⟨"BTC", none⟩]
    let optimization : Optimization := { syncHeartbeats := true }
    let set := sampleRequest.select answer
    (decision.feeds ≠ [] ∧ decision.feeds ⊆ candidates.map (·.feed) ∧
      optimization.isEnabled = true ∧ sampleRequest.Grouped answer) ∧
      "ETH" ∈ (decision.widen candidates optimization set).feeds ∧
      Widening.AsSent set decision candidates optimization := by
  intro answer decision candidates optimization set
  have updates : decision.feeds ≠ [] := by decide
  have eligible : decision.feeds ⊆ candidates.map (·.feed) := by decide
  have grouped : sampleRequest.Grouped answer := by
    intro feed requested other alsoRequested package offered carries rival
    have all : ∀ feed ∈ sampleRequest.feeds,
        sampleRequest.offers answer feed = [samplePackage "MAIN" ["ETH", "BTC"]] := by
      decide +kernel
    rw [all feed requested, all other alsoRequested]
  obtain ⟨joining, exactly, grouping⟩ := widen_shared sampleRequest answer
  have shares : set.Shares "ETH" "BTC" := by
    have listed := listed_sample [samplePackage "MAIN" ["ETH", "BTC"]] (by decide +kernel)
    refine ⟨by decide, ?_, ?_⟩ <;> rw [listed] <;> decide +kernel
  have selected : "BTC" ∈ (decision.widen candidates optimization set).feeds :=
    Decision.subset_widen eligible optimization set (List.mem_singleton.mpr rfl)
  refine ⟨⟨updates, eligible, rfl, grouped⟩, ?_, ?_⟩
  · exact (joining decision candidates optimization updates eligible rfl).2 ⟨"ETH", none⟩
      List.mem_cons_self "BTC" selected shares
  · apply (exactly (· ∈ sampleRequest.feeds)).mpr _ decision candidates optimization updates
      eligible (by decide) rfl
    intro feed other requested alsoRequested
    exact grouping grouped feed requested other alsoRequested

/-- What joins need not be what is sent. With a package of two feeds that is listed under one of
them only, this one joins the other although nothing that is sent carries it, and is not joined by
the other, which is carried. -/
theorem widen_shared_unlike_sent :
    let set := sampleRequest.select
      [("primary", [samplePackage "ETH" ["ETH"], samplePackage "MAIN" ["ETH", "BTC"]])]
    let widened (feed other : FeedId) : List FeedId :=
      (Decision.widen { feeds := [feed] } [⟨feed, none⟩, ⟨other, none⟩] { syncHeartbeats := true }
        set).feeds
    ("BTC" ∈ widened "ETH" "BTC" ∧ ¬set.Brings "ETH" "BTC") ∧
      ("ETH" ∉ widened "BTC" "ETH" ∧ set.Brings "BTC" "ETH") := by
  intro set widened
  have listed := listed_sample [samplePackage "ETH" ["ETH"], samplePackage "MAIN" ["ETH", "BTC"]]
    (by decide +kernel)
  have brings : set.Brings "BTC" "ETH" := by
    rw [PackageSet.Brings, listed]
    decide +kernel
  have not_back : ¬set.Brings "ETH" "BTC" := by
    rw [PackageSet.Brings, listed]
    decide +kernel
  have nonempty : set.listed "ETH" ≠ [] := by
    rw [listed]
    decide +kernel
  refine ⟨⟨?_, not_back⟩, ?_, brings⟩
  · have selected : "ETH" ∈ widened "ETH" "BTC" :=
      Decision.subset_widen (by decide) _ set List.mem_cons_self
    have among : (⟨"BTC", none⟩ : Candidate) ∈ [⟨"ETH", none⟩, ⟨"BTC", none⟩] := by decide
    exact Decision.mem_widen_of_shares (by decide) rfl among selected
      ⟨by decide, nonempty, brings⟩
  · intro written
    have joins := ((Decision.mem_widen_iff (by decide)).mp written).2
    exact not_back (Widening.brings_of_joins (by decide) joins)

end Request

end PriceRelay
