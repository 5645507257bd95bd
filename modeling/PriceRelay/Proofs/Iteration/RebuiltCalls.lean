import PriceRelay.Proofs.Adapter.UpdateCalls
import PriceRelay.Proofs.Chain.Inclusion
import PriceRelay.Proofs.Delivery.Origins
import PriceRelay.Proofs.Iteration.Skipped
/-!
Calls that are built anew while an update is delivered, over a contract that takes each feed alone.
The decision makes sure that the first call brings newer packages. A call that is built anew brings
what the gateways answer by then, and nothing compares that with what is stored.
-/

namespace PriceRelay

theorem ReadPackage.timestamps_eq {reads : List ReadPackage} {packages : List Package}
    (shown : List.Forall₂ ReadPackage.Shows reads packages) :
    packages.map (·.timestamp) = reads.map (·.timestamp) := by
  induction shown with
  | nil => rfl
  | cons first rest ih => rw [List.map_cons, List.map_cons, ih, first.timestamp]

/-- No package of some feeds is older than all that an earlier set lists under its feed. -/
def PackageSet.KeepsUp (set earlier : PackageSet) (feeds : List FeedId) : Prop :=
  ∀ feed ∈ feeds, ∀ package ∈ set.listed feed,
    ∃ known ∈ earlier.listed feed, known.timestamp ≤ package.timestamp

/-- A call brings the packages of a set that its feeds need. -/
structure UpdateCall.Carries (call : UpdateCall) (set : PackageSet) : Prop where
  served : ∀ feed ∈ call.feeds, set.listed feed ≠ []
  payload : ∃ head payload timestamp,
    Payload.encode (set.packagesFor call.feeds) timestamp = .ok payload ∧
      call.data = head ++ payload

/-- A call brings packages for each of its feeds, all of them newer than what is stored. -/
def UpdateCall.Newer (call : UpdateCall) (contract : ContractState) : Prop :=
  ∃ set, call.Carries set ∧ ∀ feed ∈ call.feeds, ∃ snapshot,
    contract.find? feed = some snapshot ∧
      ∀ package ∈ set.listed feed, snapshot.dataTimestamp < package.timestamp

namespace UpdateCall

variable {call : UpdateCall} {set other : PackageSet} {contract : ContractState}

theorem Carries.timestamps (first : call.Carries set) (second : call.Carries other) :
    (set.packagesFor call.feeds).map (·.timestamp) =
      (other.packagesFor call.feeds).map (·.timestamp) := by
  obtain ⟨lead, _, _, encoded, written⟩ := first.payload
  obtain ⟨otherLead, _, _, otherEncoded, otherWritten⟩ := second.payload
  obtain ⟨reads, shown, readable⟩ := Payload.read?_encode encoded
  obtain ⟨otherReads, otherShown, otherReadable⟩ := Payload.read?_encode otherEncoded
  have same := readable lead
  rw [← written, otherWritten, otherReadable otherLead] at same
  injection same with same
  injection same with _ same
  rw [ReadPackage.timestamps_eq shown, ReadPackage.timestamps_eq otherShown, same]

theorem Newer.package (newer : call.Newer contract) (carries : call.Carries set)
    {package : Package} (brought : package ∈ set.packagesFor call.feeds) :
    ∃ feed ∈ call.feeds, ∃ snapshot, contract.find? feed = some snapshot ∧
      snapshot.dataTimestamp < package.timestamp := by
  obtain ⟨other, carriesOther, bounds⟩ := newer
  have stamped := List.mem_map_of_mem (f := Package.timestamp) brought
  rw [carries.timestamps carriesOther] at stamped
  obtain ⟨twin, twinBrought, same⟩ := List.mem_map.mp stamped
  obtain ⟨feed, member, listed⟩ := PackageSet.listed_of_mem_packagesFor twinBrought
  obtain ⟨snapshot, stored, bound⟩ := bounds feed member
  exact ⟨feed, member, snapshot, stored, same ▸ bound twin listed⟩

end UpdateCall

namespace Activity

variable {I : Interface} {ε α : Type}

def value? : Activity I (Except ε α) → Option α
  | .done (.ok value) => some value
  | _ => none

theorem eq_done_of_value? {activity : Activity I (Except ε α)} {value : α}
    (found : activity.value? = some value) : activity = .done (.ok value) := by
  unfold value? at found
  split at found
  · cases found
    rfl
  · cases found

end Activity

namespace Adapter.Site

variable {site : Site} {feeds : List FeedId} {set : PackageSet} {timestamp : Millis}
  {call : UpdateCall}

theorem buildSome_carries (built : site.buildSome feeds set timestamp = .ok call) :
    call.feeds = feeds.filter (set.has ·) ∧ call.Carries set := by
  obtain ⟨_, slots, payload, _, encoded, rfl⟩ := buildSome_ok_iff.mp built
  refine ⟨rfl, fun feed member => ?_, _, payload, timestamp, encoded, rfl⟩
  exact (set.has_iff feed).mp (List.mem_filter.mp member).2

end Adapter.Site

namespace Relayer

variable {relayer : Relayer} {site : Adapter.Site}

theorem feedsToWrite_apart (deployed : relayer.adapter = Adapter.atSite site)
    (apart : site.kind = .multiFeed) (decision : Decision) :
    relayer.feedsToWrite decision = decision.feeds := by
  rw [feedsToWrite_atSite deployed, apart]
  rfl

theorem rebuild_ends {request : Request} {call : UpdateCall} {trace : List (Exchange world)}
    {elapsed : Millis} (ends : (relayer.rebuild request).Ends trace elapsed (.ok call)) :
    ∃ delay packages now rest late,
      ⟨.packages false request, ⟨delay, .ok packages⟩⟩ ∈ trace ∧
        (relayer.adapter.perform (.build request.feeds packages now)).Ends rest late (.ok call) := by
  obtain ⟨asking, rest, _, _, packages, rfl, rfl, asked, onward⟩ := Activity.ends_andThen_ok ends
  obtain ⟨timed, later, rfl, settled⟩ := Activity.ends_ask_iff.mp asked
  obtain ⟨now, building, rfl, built⟩ := Activity.ends_question_bind_iff.mp onward
  obtain ⟨_, answer⟩ := Task.ends_settle settled
  refine ⟨timed.delay, packages, now, building, _, ?_, built⟩
  rw [answer]
  exact List.mem_append_left _ List.mem_cons_self

theorem rebuild_atOnce (deployed : relayer.adapter = Adapter.atSite site)
    (apart : site.kind = .multiFeed) {request : Request} {packages : PackageSet} {now : Millis}
    {call : UpdateCall} (built : site.buildSome request.feeds packages now = .ok call) :
    (relayer.rebuild request).Ends
      [⟨.packages false request, ⟨0, .ok packages⟩⟩, ⟨.clock, now⟩] 0 (.ok call) :=
  .ask _ (.ask _ ((build_ends_iff deployed).mpr
    ⟨rfl, rfl, built.symm.trans (Adapter.Site.build_apart apart).symm⟩))

namespace UpdateCourse

/-- While the update is delivered, the gateways answer a request for the feeds that are written. -/
def Answered (course : relayer.UpdateCourse) (set : PackageSet) : Prop :=
  ∃ delay, ⟨.packages false (relayer.fetcher.request course.decision.feeds
    course.fetched.threshold), ⟨delay, .ok set⟩⟩ ∈ course.delivering

variable {course : relayer.UpdateCourse} {call : UpdateCall}

theorem call_built (deployed : relayer.adapter = Adapter.atSite site)
    (apart : site.kind = .multiFeed) :
    site.buildSome course.decision.feeds course.fetched.packages course.fetched.now =
      .ok course.call := by
  obtain ⟨_, builds⟩ := course.builds
  obtain ⟨_, _, built⟩ := (build_ends_iff deployed).mp builds
  rw [feedsToWrite_apart deployed apart, Adapter.Site.build_apart apart] at built
  exact built.symm

/-- The first call brings newer packages, since every feed that the decision writes is fresh. -/
theorem call_newer (deployed : relayer.adapter = Adapter.atSite site)
    (apart : site.kind = .multiFeed) : course.call.Newer course.context.contract := by
  obtain ⟨covered, carries⟩ := Adapter.Site.buildSome_carries (course.call_built deployed apart)
  refine ⟨course.fetched.packages, carries, fun feed member => ?_⟩
  rw [covered] at member
  have written : feed ∈ course.decision.feeds := (List.mem_filter.mp member).1
  rw [course.decided] at written
  obtain ⟨snapshot, fresh⟩ := Engine.written_fresh written
  exact ⟨snapshot, fresh.stored, fresh.newer⟩

/-- A call that was built anew brings packages of a later answer. -/
theorem rebuilt_built (deployed : relayer.adapter = Adapter.atSite site)
    (apart : site.kind = .multiFeed)
    (rebuilt : Delivery.Rebuilt (relayer.toDeliver course.fetched course.decision course.call)
      course.calls call) :
    ∃ set now, course.Answered set ∧ site.buildSome course.decision.feeds set now = .ok call := by
  obtain ⟨build, before, configured, member⟩ := rebuilt
  cases configured
  obtain ⟨part, _, answered, within⟩ := course.served.part member
  obtain ⟨delay, set, now, _, _, asked, builds⟩ := rebuild_ends answered
  obtain ⟨_, _, built⟩ := (build_ends_iff deployed).mp builds
  have feeds := feedsToWrite_apart deployed apart course.decision
  rw [feeds] at asked
  refine ⟨set, now, ⟨delay, within asked⟩, ?_⟩
  rw [← feeds, ← Adapter.Site.build_apart apart]
  exact built.symm

theorem rebuilt_newer {set : PackageSet} (carries : call.Carries set)
    (selected : call.feeds ⊆ course.decision.feeds)
    (keeps : set.KeepsUp course.context.packages call.feeds) :
    call.Newer course.context.contract := by
  refine ⟨set, carries, fun feed member => ?_⟩
  have written : feed ∈ course.decision.feeds := selected member
  rw [course.decided] at written
  obtain ⟨snapshot, fresh⟩ := Engine.written_fresh written
  refine ⟨snapshot, fresh.stored, fun package listed => ?_⟩
  obtain ⟨known, first, bound⟩ := keeps feed member package listed
  exact Nat.lt_of_lt_of_le (fresh.newer known first) bound

end UpdateCourse

/-- Over a contract that takes each feed alone, an iteration submits calls for feeds that its decision
writes: the first one, which brings newer packages, and calls that were built anew. These bring what
the gateways answer by then. They are newer where the answer keeps up with the packages of the
decision, and only if each package is newer than the stored state of some feed of the call. -/
theorem iterate_submits (relayer : Relayer) (site : Adapter.Site)
    (deployed : relayer.adapter = Adapter.atSite site) (apart : site.kind = .multiFeed) :
    (∀ (trace : List (Exchange world)) (elapsed : Millis) (outcome : DeliveryOutcome),
      relayer.iterate.Ends trace elapsed (.ok (.updated outcome)) →
        ∃ (opening : List (Exchange world)) (course : relayer.UpdateCourse),
          trace = opening ++ course.trace ∧ course.outcome = outcome) ∧
    ∀ (course : relayer.UpdateCourse) (call : UpdateCall) (reply : Except Failure Dispatched),
      ⟨.submit call, reply⟩ ∈ course.calls →
        let contract := course.context.contract
        call.feeds ⊆ course.decision.feeds ∧
        (call = course.call ∧ call.Newer contract ∨
          ∃ set, course.Answered set ∧ call.Carries set ∧
            (set.KeepsUp course.context.packages call.feeds → call.Newer contract) ∧
            (call.Newer contract → ∀ package ∈ set.packagesFor call.feeds, ∃ feed ∈ call.feeds,
              ∃ snapshot, contract.find? feed = some snapshot ∧
                snapshot.dataTimestamp < package.timestamp)) := by
  refine ⟨fun _ _ _ => iterate_updated, ?_⟩
  intro course call reply submitted contract
  obtain ⟨_, delivers⟩ := course.delivers
  rcases DeliveryManager.procedure_origin delivers submitted with same | rebuilt
  · have first : call = course.call := same
    obtain ⟨covered, _⟩ := Adapter.Site.buildSome_carries (course.call_built deployed apart)
    rw [first]
    refine ⟨?_, .inl ⟨rfl, UpdateCourse.call_newer deployed apart⟩⟩
    rw [covered]
    exact List.filter_subset_self _
  · obtain ⟨set, now, answered, built⟩ := UpdateCourse.rebuilt_built deployed apart rebuilt
    obtain ⟨covered, carries⟩ := Adapter.Site.buildSome_carries built
    have selected : call.feeds ⊆ course.decision.feeds := by
      rw [covered]
      exact List.filter_subset_self _
    refine ⟨selected, .inr ⟨set, answered, carries, ?_, ?_⟩⟩
    · exact UpdateCourse.rebuilt_newer carries selected
    · intro newer package brought
      exact newer.package carries brought

theorem fetch_atSite {fetcher : Fetcher} {block threshold : Nat} {contract : ContractState}
    (deployed : fetcher.adapter = Adapter.atSite site)
    (numbered : fetcher.rpc.request .blockNumber = .done (.ok block))
    (read : site.readState fetcher.feeds block = .done (.ok contract))
    (asked : site.threshold block = .done (.ok threshold)) (packages : PackageSet) (now : Millis) :
    let request := fetcher.request fetcher.feeds threshold
    fetcher.fetch.Ends [⟨.packages false request, ⟨0, .ok packages⟩⟩, ⟨.clock, now⟩] 0
      (.ok { block, now, threshold, contract, packages
             pastRequest? := fetcher.pastRequest? request now }) := by
  apply Fetcher.fetch_atOnce numbered
  · rw [deployed]
    exact read
  · rw [deployed]
    exact asked

/-- A node that answers at once. Requests without arguments are answered by a threshold of one,
others by a price of one. -/
def delayedNode : Rpc := ⟨fun
  | .blockNumber => .done (.ok (42 : Nat))
  | .call _ data _ => .done (.ok (
    if data.length = 4 then Abi.word 1
    else Abi.behindOffset (Abi.list [Abi.word 1000 ++ Abi.word 1 ++ Abi.word 100000000])))
  | call => Task.rpc 0 call⟩

def delayedSite : Adapter.Site :=
  ⟨.multiFeed, FixedBytes.ofNat 20 2, delayedNode, FixedBytes.ofNat 20 3⟩

def ofDelayedFeed : Relayer :=
  { fetcher :=
      { adapter := Adapter.atSite delayedSite, rpc := delayedNode, feeds := ["ETH"]
        service := "main" }
    engine := ofHourlyFeed.engine
    delivery := ⟨Adapter.atSite delayedSite, delayedNode, ⟨1, 20000, 0, 0⟩, none⟩ }

theorem delayedSite_state :
    delayedSite.readState ["ETH"] 42 = .done (.ok fetchedOfHourlyFeed.contract) := by
  have read : (delayedSite.readState ["ETH"] 42).value?.map (·.entries) =
      some fetchedOfHourlyFeed.contract.entries := by decide +kernel
  obtain ⟨contract, found, same⟩ := Option.map_eq_some_iff.mp read
  obtain rfl : contract = fetchedOfHourlyFeed.contract := FeedMap.eq_of_entries same
  exact Activity.eq_done_of_value? found

theorem delayedSite_threshold : delayedSite.threshold 42 = .done (.ok (1 : Nat)) :=
  Activity.eq_done_of_value? (by decide +kernel)

theorem ofDelayedFeed_feeds :
    (fetchedOfHourlyFeed.decisionWith ofDelayedFeed.engine none).feeds = ["ETH"] := by
  have updates := ofHourlyFeed_updates.1
  obtain ⟨_, _, same, ordered⟩ :=
    ofHourlyFeed.engine.evaluate_feeds (fetchedOfHourlyFeed.contextWith none) (by decide)
  rw [← same] at ordered
  rcases List.sublist_singleton.mp ordered with none_written | one
  · unfold Decision.shouldUpdate Fetched.decisionWith at updates
    rw [none_written] at updates
    cases updates
  · exact one

def delayedRequest : Request := ofDelayedFeed.fetcher.request ["ETH"] 1

theorem ofDelayedFeed_fetches : ofDelayedFeed.fetcher.fetch.Ends
    [⟨.packages false delayedRequest, ⟨0, .ok (doubledAt 2000)⟩⟩, ⟨.clock, (3000 : Nat)⟩] 0
    (.ok fetchedOfHourlyFeed) := by
  have read : delayedSite.readState ofDelayedFeed.fetcher.feeds 42 =
      .done (.ok fetchedOfHourlyFeed.contract) := delayedSite_state
  exact fetch_atSite rfl rfl read delayedSite_threshold (doubledAt 2000) 3000

theorem ofDelayedFeed_rebuilds {timestamp now : Millis} {call : UpdateCall}
    (built : delayedSite.buildSome ["ETH"] (doubledAt timestamp) now = .ok call) :
    (ofDelayedFeed.rebuild delayedRequest).Ends
      [⟨.packages false delayedRequest, ⟨0, .ok (doubledAt timestamp)⟩⟩, ⟨.clock, now⟩] 0
      (.ok call) := by
  have asked : delayedRequest.feeds = ["ETH"] := rfl
  rw [← asked] at built
  exact rebuild_atOnce rfl rfl built

theorem ofDelayedFeed_course {later : Millis} {first call : UpdateCall}
    (prepared : delayedSite.buildSome ["ETH"] (doubledAt 2000) 3000 = .ok first)
    (built : delayedSite.buildSome ["ETH"] (doubledAt later) 24000 = .ok call) :
    ∃ (course : ofDelayedFeed.UpdateCourse) (reply : Except Failure Dispatched),
      ⟨.submit call, reply⟩ ∈ course.calls ∧
        course.context.contract = fetchedOfHourlyFeed.contract := by
  have feeds := ofDelayedFeed_feeds
  generalize made : fetchedOfHourlyFeed.decisionWith ofDelayedFeed.engine none = decision at feeds
  have writes : ofDelayedFeed.feedsToWrite decision = ["ETH"] := feeds
  let build (_ : Nat) : Attempt UpdateCall := ofDelayedFeed.rebuild delayedRequest
  let delivery := ofDelayedFeed.toDeliver fetchedOfHourlyFeed decision first
  let dispatched : Dispatched := ⟨FixedBytes.ofNat 32 1, 0, 21000, .legacy 5⟩
  have configured : delivery.regenerate? = some build := by
    unfold delivery toDeliver
    rw [writes]
    rfl
  have aged : (ofDelayedFeed.delivery.serve delivery (.age first)).Ends
      [⟨.age first, (20001 : Nat)⟩] 0 (20001 : Nat) := .ask _ (.done _)
  have submitted : (ofDelayedFeed.delivery.serve delivery (.submit call)).Ends
      [⟨.submit call, ⟨0, .ok dispatched⟩⟩] 0 (.ok dispatched) := .ask _ (.done _)
  let course : ofDelayedFeed.UpdateCourse :=
    { fetched := fetchedOfHourlyFeed
      answer := none
      call := first
      calls := [⟨.age first, (20001 : Nat)⟩, ⟨.regenerate build 0, .ok call⟩,
        ⟨.submit call, .ok dispatched⟩]
      outcome := .delivered dispatched.hash false false
      fetching := _
      deciding := []
      building := []
      delivering := _
      decision
      fetches := ⟨0, ofDelayedFeed_fetches⟩
      decides := ⟨0, made ▸ Fetched.decide_atOnce rfl _⟩
      decided := made.symm
      updates := made ▸ ofHourlyFeed_updates.1
      builds := ⟨0, (build_ends_iff rfl).mpr ⟨rfl, rfl, writes ▸ prepared.symm⟩⟩
      delivers := ⟨0, DeliveryManager.procedure_rebuilds rfl rfl configured rfl⟩
      served := .cons aged (.cons (ofDelayedFeed_rebuilds built) (.cons submitted .nil)) }
  exact ⟨course, .ok dispatched, by simp [course], rfl⟩

/-- A delayed call that is built anew from packages of a later instant. -/
theorem iterate_submits_delayed :
    ∃ (course : ofDelayedFeed.UpdateCourse) (call : UpdateCall) (reply : Except Failure Dispatched),
      ⟨.submit call, reply⟩ ∈ course.calls ∧
        let contract := course.context.contract
        call.feeds ⊆ course.decision.feeds ∧
        (call = course.call ∧ call.Newer contract ∨
          ∃ set, course.Answered set ∧ call.Carries set ∧
            (set.KeepsUp course.context.packages call.feeds → call.Newer contract) ∧
            (call.Newer contract → ∀ package ∈ set.packagesFor call.feeds, ∃ feed ∈ call.feeds,
              ∃ snapshot, contract.find? feed = some snapshot ∧
                snapshot.dataTimestamp < package.timestamp)) := by
  obtain ⟨first, prepared⟩ : ∃ call, delayedSite.buildSome ["ETH"] (doubledAt 2000) 3000 =
    .ok call := exists_ok_of_toBool (by decide +kernel)
  obtain ⟨call, built⟩ : ∃ call, delayedSite.buildSome ["ETH"] (doubledAt 2500) 24000 =
    .ok call := exists_ok_of_toBool (by decide +kernel)
  obtain ⟨course, reply, submitted, _⟩ := ofDelayedFeed_course prepared built
  exact ⟨course, call, reply, submitted,
    (iterate_submits ofDelayedFeed delayedSite rfl rfl).2 course call reply submitted⟩

/-- A call that is built anew may bring packages that are older than what is stored: the gateways may
answer a later request with packages of an earlier instant. -/
theorem iterate_submits_stale :
    ¬∀ (relayer : Relayer) (site : Adapter.Site), relayer.adapter = Adapter.atSite site →
      site.kind = .multiFeed → ∀ (course : relayer.UpdateCourse) (call : UpdateCall)
        (reply : Except Failure Dispatched), ⟨.submit call, reply⟩ ∈ course.calls →
          call.Newer course.context.contract := by
  intro claimed
  obtain ⟨first, prepared⟩ : ∃ call, delayedSite.buildSome ["ETH"] (doubledAt 2000) 3000 =
    .ok call := exists_ok_of_toBool (by decide +kernel)
  obtain ⟨call, built⟩ : ∃ call, delayedSite.buildSome ["ETH"] (doubledAt 500) 24000 =
    .ok call := exists_ok_of_toBool (by decide +kernel)
  obtain ⟨course, reply, submitted, stored⟩ := ofDelayedFeed_course prepared built
  have newer := claimed ofDelayedFeed delayedSite rfl rfl course call reply submitted
  obtain ⟨covered, carries⟩ := Adapter.Site.buildSome_carries built
  have feeds : call.feeds = ["ETH"] := covered.trans (by decide)
  let package : Package := ⟨"ETH", 500, FixedBytes.ofNat 20 1, [{ feed := "ETH", value := 2.0 }],
    List.replicate 65 1⟩
  have brought : package ∈ (doubledAt 500).packagesFor call.feeds := by
    rw [feeds]
    decide
  obtain ⟨feed, member, snapshot, found, bound⟩ := newer.package carries brought
  rw [feeds, List.mem_singleton] at member
  have known : fetchedOfHourlyFeed.contract.find? "ETH" = some ⟨1000, 1000, 100000000⟩ := by decide
  rw [stored, member, known] at found
  cases found
  revert bound
  decide

end Relayer

end PriceRelay
