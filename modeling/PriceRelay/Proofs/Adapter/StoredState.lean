import PriceRelay.Proofs.Activity.Yields
import PriceRelay.Proofs.Adapter.Answers
import PriceRelay.Proofs.Auction.Acceptance
import PriceRelay.Proofs.Chain.Inclusion
import PriceRelay.Proofs.Lists
import PriceRelay.Proofs.Packages.Lookup
/-!
The stored state as it is read from a contract: each feed has the report at its own position, feeds
behind the last report have none, and what a contract does not write gives no state at all.
-/

namespace PriceRelay

namespace AdapterContract

variable {answers : Bytes → Option Bytes} {slots : List Hash}

/-- What a contract tells of its feeds where it answers the calls for their slots with what it can
write. -/
inductive Told (answers : Bytes → Option Bytes) (slots : List Hash) :
    AdapterKind → List Report → Prop where
  | apart {reports : List Report} (writable : Writable reports)
      (told : answers (detailsCall slots) = some (detailsAnswer reports)) :
      Told answers slots .multiFeed reports
  | together {dataTimestamp blockSeconds : Nat} {values : List Nat}
      (low : dataTimestamp < 2 ^ 128) (alsoLow : blockSeconds < 2 ^ 128)
      (fit : Abi.AllFit values) (short : values.length < Abi.wordBound)
      (toldTimestamps : answers timestampsCall =
        some (timestampsAnswer dataTimestamp blockSeconds))
      (toldValues : answers (valuesCall slots) = some (valuesAnswer values)) :
      Told answers slots .priceFeeds (values.map fun value => ⟨dataTimestamp, blockSeconds, value⟩)

def snapshots? (answers : Bytes → Option Bytes) (slots : List Hash) :
    AdapterKind → Option (List Snapshot)
  | .multiFeed => (answers (detailsCall slots)).bind details?
  | .priceFeeds =>
    (((answers timestampsCall).bind timestamps?).bind fun timestamps =>
      ((answers (valuesCall slots)).bind values?).map fun values => (timestamps, values)).map
        fun (timestamps, values) => values.map (snapshot timestamps.1 timestamps.2)

theorem map_snapshot (dataTimestamp blockSeconds : Nat) (values : List Nat) :
    values.map (snapshot dataTimestamp blockSeconds) =
      (values.map fun value => (⟨dataTimestamp, blockSeconds, value⟩ : Report)).map
        Report.snapshot := by
  rw [List.map_map]
  exact List.map_congr_left fun value _ => snapshot_eq dataTimestamp blockSeconds value

theorem snapshots?_eq_some_iff {kind : AdapterKind} {snapshots : List Snapshot} :
    snapshots? answers slots kind = some snapshots ↔
      ∃ reports, Told answers slots kind reports ∧ snapshots = reports.map Report.snapshot := by
  cases kind with
  | multiFeed =>
    rw [snapshots?, Option.bind_eq_some_iff]
    simp only [details?_eq_some_iff]
    constructor
    · rintro ⟨answer, told, reports, writable, written, taken⟩
      exact ⟨reports, .apart writable (written ▸ told), taken⟩
    · rintro ⟨reports, ⟨writable, told⟩, taken⟩
      exact ⟨_, told, reports, writable, rfl, taken⟩
  | priceFeeds =>
    rw [snapshots?]
    simp only [Option.bind_eq_some_iff, Option.map_eq_some_iff, Prod.exists,
      timestamps?_eq_some_iff, values?_eq_some_iff]
    constructor
    · rintro ⟨_, _, _, ⟨dataTimestamp, blockSeconds, ⟨first, toldFirst, low, alsoLow, written⟩,
        values, ⟨second, toldSecond, fit, short, alsoWritten⟩, ⟨⟩⟩, rfl⟩
      exact ⟨_, .together low alsoLow fit short (written ▸ toldFirst) (alsoWritten ▸ toldSecond),
        map_snapshot ..⟩
    · rintro ⟨reports, told, rfl⟩
      cases told with
      | together low alsoLow fit short toldTimestamps toldValues =>
        exact ⟨_, _, _, ⟨_, _, ⟨_, toldTimestamps, low, alsoLow, rfl⟩, _,
          ⟨_, toldValues, fit, short, rfl⟩, rfl⟩, map_snapshot ..⟩

end AdapterContract

open AdapterContract

/-- Feeds have the reports at their positions, and those behind the last report have nothing. -/
structure Assigned (feeds : List FeedId) (reports : List Report) (state : ContractState) :
    Prop where
  present : ∀ feed, (∃ snapshot, state.find? feed = some snapshot) ↔
    feed ∈ feeds.take (min reports.length feeds.length)
  each : ∀ (index : Nat) (feed : FeedId) (report : Report), feeds[index]? = some feed →
    reports[index]? = some report → state.find? feed = some report.snapshot

theorem Assigned.absent {feeds : List FeedId} {reports : List Report} {state : ContractState}
    (assigned : Assigned feeds reports state) {feed : FeedId}
    (behind : feed ∉ feeds.take (min reports.length feeds.length)) : state.find? feed = none := by
  refine Option.eq_none_iff_forall_ne_some.mpr fun snapshot found => ?_
  exact behind ((assigned.present feed).mp ⟨snapshot, found⟩)

theorem stateOf_assigned {feeds : List FeedId} (distinct : feeds.Nodup) (reports : List Report) :
    Assigned feeds reports (Adapter.Site.stateOf feeds (reports.map Report.snapshot)) := by
  have covered : (feeds.zip (reports.map Report.snapshot)).map Prod.fst =
      feeds.take (min reports.length feeds.length) := by
    rw [map_fst_zip, List.length_map]
  have apart : ((feeds.zip (reports.map Report.snapshot)).map Prod.fst).Nodup := by
    rw [covered]
    exact (List.take_sublist ..).nodup distinct
  have found {feed : FeedId} {snapshot : Snapshot} :
      (Adapter.Site.stateOf feeds (reports.map Report.snapshot)).find? feed = some snapshot ↔
        (feed, snapshot) ∈ feeds.zip (reports.map Report.snapshot) :=
    FeedMap.find?_ofList_iff apart
  constructor
  · intro feed
    simp only [found, ← covered, List.mem_map, Prod.exists, exists_and_right, exists_eq_right]
  · intro index feed report listed reported
    refine found.mpr (List.mem_iff_getElem?.mpr ⟨index, ?_⟩)
    rw [List.getElem?_zip_eq_some, List.getElem?_map, reported]
    exact ⟨listed, rfl⟩

namespace Adapter.Site

variable {site : Site} {feeds : List FeedId} {slots : List Hash} {block : Nat}
  {answers : Bytes → Option Bytes} {trace : List (Exchange world)}

theorem yields_decoded {α : Type} {failure : Failure} {read? : Bytes → Option α} {answer : Bytes} :
    (decoded failure read? answer).Yields trace (read? answer) := by
  unfold decoded
  cases read? answer <;> exact Activity.yields_done _

theorem yields_call {α : Type} {what : String} {data : Bytes} {answer? : Option Bytes}
    (told : (site.call data block).Yields trace answer?) (failure : Failure)
    (read? : Bytes → Option α) :
    (Activity.andThen (Task.context what (site.call data block)) (decoded failure read?)).Yields
      trace (answer?.bind read?) :=
  Activity.Yields.andThen told.mapError fun _ => yields_decoded

theorem andThen_ofExcept {α β : Type} (value : α) (next : α → Attempt β) :
    Activity.andThen (Task.ofExcept (.ok value)) next = next value := rfl

theorem readEach_yields (told : ∀ data, (site.call data block).Yields trace (answers data))
    (slotted : Site.slots feeds = .ok slots) :
    (site.readEach feeds block).Yields trace
      ((snapshots? answers slots .multiFeed).map (stateOf feeds)) := by
  rw [readEach, slotted, andThen_ofExcept, ← Activity.andThen_assoc, Option.map_eq_bind]
  exact (yields_call (told _) _ _).andThen fun _ => Activity.yields_done _

theorem readTogether_yields (told : ∀ data, (site.call data block).Yields trace (answers data))
    (slotted : Site.slots feeds = .ok slots) :
    (site.readTogether feeds block).Yields trace
      ((snapshots? answers slots .priceFeeds).map (stateOf feeds)) := by
  have timestamps : (site.readTimestamps block).Yields trace
      ((answers timestampsCall).bind timestamps?) := yields_call (told _) _ _
  have values : (site.readValues slots block).Yields trace
      ((answers (valuesCall slots)).bind values?) := yields_call (told _) _ _
  rw [readTogether, slotted, andThen_ofExcept, snapshots?, Option.map_map, Option.map_eq_bind]
  exact (timestamps.tryBoth values).andThen fun _ => Activity.yields_done _

theorem readState_yields (told : ∀ data, (site.call data block).Yields trace (answers data))
    (slotted : Site.slots feeds = .ok slots) :
    (site.readState feeds block).Yields trace
      ((snapshots? answers slots site.kind).map (stateOf feeds)) := by
  unfold readState
  cases site.kind with
  | multiFeed => exact readEach_yields told slotted
  | priceFeeds => exact readTogether_yields told slotted

/-- The state of some feeds at a block, where the node tells what the contract answers to each call.
Where the contract writes reports in the order of the feeds, the first feeds have these, with
timestamps that stop at the largest and do not wrap; where it does not, nothing is read. -/
theorem readState_assigned {elapsed : Millis} {result : Except Failure ContractState}
    (distinct : feeds.Nodup) (fit : ∀ feed ∈ feeds, (Utf8.encode feed).length ≤ 31)
    (told : ∀ data, (site.call data block).Yields trace (answers data))
    (ends : (site.readState feeds block).Ends trace elapsed result) :
    ∃ slots, List.Forall₂ (fun slot feed => FeedSlot.ofFeed? feed = some slot) slots feeds ∧
      (∀ reports, Told answers slots site.kind reports →
        ∃ state, result = .ok state ∧ Assigned feeds reports state) ∧
      ((¬∃ reports, Told answers slots site.kind reports) →
        ∃ failure, result = .error failure) := by
  obtain ⟨slots, slotted⟩ := exists_slots_iff.mpr fit
  have read : result.toOption = (snapshots? answers slots site.kind).map (stateOf feeds) :=
    readState_yields told slotted result ends.observed
  refine ⟨slots, slots_ok_iff.mp slotted, ?_, ?_⟩
  · intro reports reported
    rw [snapshots?_eq_some_iff.mpr ⟨reports, reported, rfl⟩] at read
    cases result with
    | error failure => cases read
    | ok state =>
      refine ⟨state, rfl, ?_⟩
      rw [Option.some.inj read]
      exact stateOf_assigned distinct reports
  · intro unreported
    cases result with
    | error failure => exact ⟨failure, rfl⟩
    | ok state =>
      obtain ⟨snapshots, some_told, -⟩ := Option.map_eq_some_iff.mp read.symm
      obtain ⟨reports, reported, -⟩ := snapshots?_eq_some_iff.mp some_told
      exact absurd ⟨reports, reported⟩ unreported

theorem call_yields_of_node {provider : Nat} (node : site.rpc = Rpc.node provider)
    (replies : ∀ data (reply : Timed Bytes),
      (⟨.rpc provider (.call site.contract data block), reply⟩ : Exchange world) ∈ trace →
        reply.answer.toOption = answers data) (data : Bytes) :
    (site.call data block).Yields trace (answers data) := by
  rintro result ⟨part, elapsed, sub, ends⟩
  rw [call, node] at ends
  obtain ⟨reply, rest, rfl, settled⟩ := Activity.ends_ask_iff.mp ends
  rw [(Task.ends_settle settled).2]
  exact replies data reply (sub.subset List.mem_cons_self)

/-- A world in which a contract answers calls, the shorter ones after a longer time. -/
def worldOf (answers : Bytes → Option Bytes) : Host world Unit where
  answer question state := match question with
    | .rpc _ (.call _ data _) =>
      (⟨200 - data.length, (answers data).elim (.error .transport) .ok⟩, state)
    | other => AuctionLane.sampleWorld.answer other state

def behindNode (kind : AdapterKind) : Site := ⟨kind, default, Rpc.node 0, default⟩

/-- In that world the node tells what the contract answers. -/
theorem worldOf_yields {α : Type} {kind : AdapterKind} {attempt : Task α} (data : Bytes) :
    ((behindNode kind).call data block).Yields (attempt.history (worldOf answers) ())
      (answers data) := by
  refine call_yields_of_node rfl ?_ data
  intro data reply member
  obtain ⟨_, same⟩ := Activity.reply_of_mem_history member
  have told : reply.answer = (answers data).elim (.error .transport) .ok :=
    congrArg Timed.answer same
  rw [told]
  cases answers data <;> rfl

/-- Two reports, one of which is larger than what can be stored. -/
def twoReports : List Report := [⟨2 ^ 64 + 5, 2 ^ 255, 100⟩, ⟨2000, 3, 200⟩]

theorem twoReports_writable : Writable twoReports := ⟨by decide, by decide⟩

/-- A contract that keeps its feeds together, and two values of them. -/
def togetherAnswers (data : Bytes) : Option Bytes :=
  if data.length = 4 then some (timestampsAnswer 2000 (2 ^ 120)) else some (valuesAnswer [100, 200])

theorem togetherAnswers_slots (signature : String) (slots : List Hash) :
    togetherAnswers (Abi.selector signature ++ Abi.behindOffset (Abi.list (slots.map (·.bytes)))) =
      some (valuesAnswer [100, 200]) := by
  refine if_neg ?_
  simp only [List.length_append, Abi.length_selector, Abi.behindOffset, Abi.length_word,
    Abi.wordSize]
  omega

theorem togetherAnswers_told (slots : List Hash) : Told togetherAnswers slots .priceFeeds
    [⟨2000, 2 ^ 120, 100⟩, ⟨2000, 2 ^ 120, 200⟩] :=
  .together (by decide) (by decide) (by decide) (by decide) (if_pos (Abi.length_selector _))
    (togetherAnswers_slots _ slots)

theorem togetherAnswers_not_told (slots : List Hash) :
    ¬∃ reports, Told togetherAnswers slots .multiFeed reports := by
  rintro ⟨reports, ⟨writable, told⟩⟩
  have answered := told.symm.trans (togetherAnswers_slots _ slots)
  have read : details? (detailsAnswer reports) = some _ :=
    details?_eq_some_iff.mpr ⟨reports, writable, rfl, rfl⟩
  have unread : details? (valuesAnswer [100, 200]) = none := by decide +kernel
  rw [Option.some.inj answered, unread] at read
  cases read

/-- Of three feeds two are told of. Their state is read from a contract of either kind, and what the
one kind answers is nothing that the other does. -/
theorem readState_assigned_short :
    (∃ trace elapsed state,
      ((behindNode .multiFeed).readState ["ETH", "BTC", "SOL"] 7).Ends trace elapsed (.ok state) ∧
        state.find? "ETH" = some ⟨2 ^ 64 - 1, 2 ^ 64 - 1, 100⟩ ∧
        state.find? "BTC" = some ⟨2000, 3000, 200⟩ ∧ state.find? "SOL" = none) ∧
    (∃ trace elapsed state,
      ((behindNode .priceFeeds).readState ["ETH", "BTC", "SOL"] 7).Ends trace elapsed (.ok state) ∧
        state.find? "ETH" = some ⟨2000, 2 ^ 64 - 1, 100⟩ ∧
        state.find? "BTC" = some ⟨2000, 2 ^ 64 - 1, 200⟩ ∧ state.find? "SOL" = none) ∧
    (∃ trace elapsed failure,
      ((behindNode .multiFeed).readState ["ETH", "BTC", "SOL"] 7).Ends trace elapsed
        (.error failure)) := by
  have distinct : ["ETH", "BTC", "SOL"].Nodup := by decide
  have fit : ∀ feed ∈ ["ETH", "BTC", "SOL"], (Utf8.encode feed).length ≤ 31 := by decide +kernel
  refine ⟨?_, ?_, ?_⟩
  · have ends := Activity.run_ends (worldOf fun _ => some (detailsAnswer twoReports))
      ((behindNode .multiFeed).readState ["ETH", "BTC", "SOL"] 7) ()
    obtain ⟨slots, -, reads, -⟩ := readState_assigned distinct fit worldOf_yields ends
    obtain ⟨state, read, assigned⟩ := reads twoReports (.apart twoReports_writable rfl)
    rw [read] at ends
    exact ⟨_, _, state, ends, assigned.each 0 _ _ rfl rfl, assigned.each 1 _ _ rfl rfl,
      assigned.absent (by decide)⟩
  · have ends := Activity.run_ends (worldOf togetherAnswers)
      ((behindNode .priceFeeds).readState ["ETH", "BTC", "SOL"] 7) ()
    obtain ⟨slots, -, reads, -⟩ := readState_assigned distinct fit worldOf_yields ends
    obtain ⟨state, read, assigned⟩ := reads _ (togetherAnswers_told slots)
    rw [read] at ends
    exact ⟨_, _, state, ends, assigned.each 0 _ _ rfl rfl, assigned.each 1 _ _ rfl rfl,
      assigned.absent (by decide)⟩
  · have ends := Activity.run_ends (worldOf togetherAnswers)
      ((behindNode .multiFeed).readState ["ETH", "BTC", "SOL"] 7) ()
    obtain ⟨slots, -, -, fails⟩ := readState_assigned distinct fit worldOf_yields ends
    obtain ⟨failure, failed⟩ := fails (togetherAnswers_not_told slots)
    rw [failed] at ends
    exact ⟨_, _, failure, ends⟩

end Adapter.Site

end PriceRelay
