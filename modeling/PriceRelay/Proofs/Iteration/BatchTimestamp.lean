import PriceRelay.Proofs.Adapter.UpdateCalls
import PriceRelay.Proofs.Decision.Selection
import PriceRelay.Proofs.Iteration.Course
/-!
Calls that write all feeds under one timestamp. A decision makes sure that the feeds it selects are
newer than what is stored; the call carries the packages of all feeds, and is newer exactly when all
of them are.
-/

namespace PriceRelay.Relayer

section

variable {relayer : Relayer} {site : Adapter.Site} {fetched : Fetched} {decision : Decision}
  {request : DeliveryRequest} {trace : List (Exchange world)} {elapsed : Millis}

theorem feedsToWrite_together (deployed : relayer.adapter = Adapter.atSite site)
    (together : site.kind = .priceFeeds) (decision : Decision) :
    relayer.feedsToWrite decision = relayer.fetcher.feeds := by
  rw [feedsToWrite_atSite deployed, together]
  rfl

/-- Over a contract that is written as a whole, a delivery carries the call for all feeds. -/
theorem deliveryRequest_buildAll (deployed : relayer.adapter = Adapter.atSite site)
    (together : site.kind = .priceFeeds)
    (success : (relayer.deliveryRequest fetched decision).Ends trace elapsed (.ok request)) :
    site.buildAll relayer.fetcher.feeds fetched.packages fetched.now = .ok request.call := by
  obtain ⟨call, builds, rfl⟩ := deliveryRequest_ok_iff.mp success
  obtain ⟨_, _, built⟩ := (build_ends_iff deployed).mp builds
  rw [feedsToWrite_together deployed together, Adapter.Site.build_together together] at built
  exact built.symm

theorem deliveryRequest_succeeds {call : UpdateCall}
    (deployed : relayer.adapter = Adapter.atSite site) (together : site.kind = .priceFeeds)
    (success : site.buildAll relayer.fetcher.feeds fetched.packages fetched.now = .ok call)
    (decision : Decision) :
    ∃ request, (relayer.deliveryRequest fetched decision).Ends [] 0 (.ok request) := by
  have built : .ok call =
      site.build (relayer.feedsToWrite decision) fetched.packages fetched.now := by
    rw [feedsToWrite_together deployed together, Adapter.Site.build_together together]
    exact success.symm
  have builds := (build_ends_iff deployed).mpr ⟨rfl, rfl, built⟩
  exact ⟨_, deliveryRequest_ok_iff.mpr ⟨call, builds, rfl⟩⟩

end

/-- Where the contract stores one timestamp for all feeds, fresh feeds have newer packages. -/
theorem newer_of_fresh {context : IterationContext} {stored : Millis} {feeds : List FeedId}
    (shared : ∀ feed snapshot, context.contract.find? feed = some snapshot →
      snapshot.dataTimestamp = stored)
    (fresh : ∀ feed ∈ feeds, ∃ snapshot, context.Fresh feed snapshot) :
    ∀ package ∈ context.packages.packagesFor feeds, stored < package.timestamp := by
  intro package sent
  obtain ⟨feed, member, listed⟩ := PackageSet.listed_of_mem_packagesFor sent
  obtain ⟨snapshot, isFresh⟩ := fresh feed member
  rw [← shared feed snapshot isFresh.stored]
  exact isFresh.newer package listed

/-- The call that carries out a decision over a contract with one timestamp proposes the oldest
timestamp of the packages of all configured feeds. It is newer than what is stored exactly when all
of these packages are; the decision makes sure of that only where it selects all feeds. -/
theorem deliveryRequest_newer_iff (relayer : Relayer) (site : Adapter.Site) (fetched : Fetched)
    (answer : Option PackageSet) (stored : Millis) (request : DeliveryRequest)
    (trace : List (Exchange world)) (elapsed : Millis)
    (deployed : relayer.adapter = Adapter.atSite site) (together : site.kind = .priceFeeds)
    (shared : ∀ feed snapshot, fetched.contract.find? feed = some snapshot →
      snapshot.dataTimestamp = stored)
    (success : (relayer.deliveryRequest fetched
      (relayer.engine.evaluate (fetched.contextWith answer)).1).Ends trace elapsed
        (.ok request)) :
    let sent := fetched.packages.packagesFor relayer.fetcher.feeds
    ∃ proposed payload,
      AdapterContract.updateAll? request.call.data = some (proposed, payload) ∧
      (sent.map (·.timestamp)).min? = some proposed ∧
      (stored < proposed ↔ ∀ package ∈ sent, stored < package.timestamp) ∧
      (relayer.fetcher.feeds ⊆ (relayer.engine.evaluate (fetched.contextWith answer)).1.feeds →
        stored < proposed) := by
  intro sent
  have built := deliveryRequest_buildAll deployed together success
  obtain ⟨proposed, payload, read, oldest⟩ := Adapter.Site.buildAll_proposes built
  have newer_iff : stored < proposed ↔ ∀ package ∈ sent, stored < package.timestamp :=
    (lt_min?_iff oldest).trans List.forall_mem_map
  refine ⟨proposed, payload, read, oldest, newer_iff, ?_⟩
  intro selected
  apply newer_iff.mpr
  have allFresh : ∀ feed ∈ relayer.fetcher.feeds,
      ∃ snapshot, (fetched.contextWith answer).Fresh feed snapshot := by
    intro feed member
    exact Engine.written_fresh (selected member)
  exact newer_of_fresh shared allFresh

/-- A relayer of two feeds that are always due, over a contract with one timestamp. -/
def ofTwoFeeds : Relayer :=
  let contract := FixedBytes.ofNat 20 2
  let adapter := Adapter.atSite ⟨.priceFeeds, contract, Rpc.node 0, FixedBytes.ofNat 20 3⟩
  { fetcher := { adapter, rpc := Rpc.node 0, feeds := ["ETH", "BTC"], service := "main" }
    engine :=
      { triggers := ⟨[{ feed := "ETH", heartbeat? := some 0 },
          { feed := "BTC", heartbeat? := some 0 }], none⟩ }
    delivery := { adapter, rpc := Rpc.node 0, settings := ⟨1, 0, 0, 0⟩ } }

/-- What such a relayer fetches: packages of two instants, and 1000 as the stored timestamp. -/
def fetchedOfTwoFeeds (first second : Millis) : Fetched :=
  let package (feed : FeedId) (timestamp : Millis) : Package :=
    ⟨feed, timestamp, FixedBytes.ofNat 20 1, [{ feed, value := 1.0 }], List.replicate 65 1⟩
  { block := 1
    now := 3000
    threshold := 1
    contract := FeedMap.ofList [("BTC", ⟨1000, 1000, 1⟩), ("ETH", ⟨1000, 1000, 1⟩)]
    packages := FeedMap.ofList
      [("BTC", [package "BTC" second]), ("ETH", [package "ETH" first])] }

theorem fetchedOfTwoFeeds_shared (first second : Millis) :
    ∀ feed snapshot, (fetchedOfTwoFeeds first second).contract.find? feed = some snapshot →
      snapshot.dataTimestamp = 1000 := by
  have same : ∀ snapshot ∈ (fetchedOfTwoFeeds 0 0).contract.values,
      snapshot.dataTimestamp = 1000 := by decide
  intro feed snapshot found
  exact same snapshot (FeedMap.mem_values_of_find? found)

theorem ofTwoFeeds_delivers (fetched : Fetched) (decision : Decision)
    (nonempty : fetched.packages.packagesFor ["ETH", "BTC"] ≠ [])
    (covered : ∀ feed ∈ ["ETH", "BTC"], fetched.packages.has feed = true)
    (written : (Payload.encode (fetched.packages.packagesFor ["ETH", "BTC"])
      fetched.now).toBool = true) :
    ∃ request, (ofTwoFeeds.deliveryRequest fetched decision).Ends [] 0 (.ok request) := by
  cases encoded : Payload.encode (fetched.packages.packagesFor ["ETH", "BTC"]) fetched.now with
  | error failure =>
    rw [encoded] at written
    cases written
  | ok payload =>
    obtain ⟨call, built⟩ := Adapter.Site.buildAll_succeeds nonempty covered encoded
    exact deliveryRequest_succeeds rfl rfl built decision

/-- Packages of both feeds that are newer than what is stored. -/
theorem deliveryRequest_newer_of_two_newer :
    ∃ request, (ofTwoFeeds.deliveryRequest (fetchedOfTwoFeeds 2000 3000)
        (ofTwoFeeds.engine.evaluate ((fetchedOfTwoFeeds 2000 3000).contextWith none)).1).Ends
          [] 0 (.ok request) ∧
      ∃ payload, AdapterContract.updateAll? request.call.data = some (2000, payload) := by
  obtain ⟨request, success⟩ := ofTwoFeeds_delivers (fetchedOfTwoFeeds 2000 3000)
    (ofTwoFeeds.engine.evaluate ((fetchedOfTwoFeeds 2000 3000).contextWith none)).1
    (by decide) (by decide) (by decide +kernel)
  obtain ⟨proposed, payload, read, oldest, _, _⟩ := deliveryRequest_newer_iff ofTwoFeeds
    ⟨.priceFeeds, FixedBytes.ofNat 20 2, Rpc.node 0, FixedBytes.ofNat 20 3⟩
    (fetchedOfTwoFeeds 2000 3000) none 1000 request [] 0 rfl rfl
    (fetchedOfTwoFeeds_shared 2000 3000) success
  have same : some 2000 = some proposed := oldest
  cases same
  exact ⟨request, success, payload, read⟩

/-- A decision may have feeds to update and its call propose a timestamp that is not newer than what
is stored: the packages of a feed that is not selected may be older. -/
theorem deliveryRequest_not_always_newer :
    ¬∀ (relayer : Relayer) (site : Adapter.Site) (fetched : Fetched) (answer : Option PackageSet)
      (stored : Millis) (request : DeliveryRequest) (trace : List (Exchange world))
      (elapsed : Millis), relayer.adapter = Adapter.atSite site → site.kind = .priceFeeds →
      (∀ feed snapshot, fetched.contract.find? feed = some snapshot →
        snapshot.dataTimestamp = stored) →
      (relayer.engine.evaluate (fetched.contextWith answer)).1.shouldUpdate = true →
      (relayer.deliveryRequest fetched
        (relayer.engine.evaluate (fetched.contextWith answer)).1).Ends trace elapsed
          (.ok request) →
      ∃ proposed payload,
        AdapterContract.updateAll? request.call.data = some (proposed, payload) ∧
        stored < proposed := by
  intro claimed
  -- BTC is left alone, since its packages are older than what is stored, and still goes along.
  let fetched := fetchedOfTwoFeeds 2000 500
  let decision := (ofTwoFeeds.engine.evaluate (fetched.contextWith none)).1
  let site : Adapter.Site :=
    ⟨.priceFeeds, FixedBytes.ofNat 20 2, Rpc.node 0, FixedBytes.ofNat 20 3⟩
  let trigger : Trigger := { feed := "ETH", heartbeat? := some 0 }
  have fresh : (fetched.contextWith none).Fresh trigger.feed ⟨1000, 1000, 1⟩ :=
    ⟨by decide, by decide, by decide⟩
  have due : ofTwoFeeds.engine.Fires (fetched.contextWith none) trigger ⟨1000, 1000, 1⟩ :=
    .deadline (.heartbeat 0 (by decide) (by decide))
  have selected : "ETH" ∈ decision.feeds := Engine.firing_written List.mem_cons_self fresh due
  have updates : decision.shouldUpdate = true := by
    unfold Decision.shouldUpdate
    rw [Bool.not_eq_true', List.isEmpty_eq_false_iff]
    exact List.ne_nil_of_mem selected
  obtain ⟨request, success⟩ := ofTwoFeeds_delivers fetched decision (by decide) (by decide)
    (by decide +kernel)
  obtain ⟨proposed, payload, read, newer⟩ := claimed ofTwoFeeds site fetched none 1000 request [] 0
    rfl rfl (fetchedOfTwoFeeds_shared 2000 500) updates success
  have deployed : ofTwoFeeds.adapter = Adapter.atSite site := rfl
  have built := deliveryRequest_buildAll deployed rfl success
  obtain ⟨least, _, same, oldest⟩ := Adapter.Site.buildAll_proposes built
  cases same.symm.trans read
  have allNewer := (lt_min?_iff oldest).mp newer
  revert allNewer
  decide

end PriceRelay.Relayer
