import PriceRelay.Proofs.Iteration.BatchTimestamp
import PriceRelay.Proofs.Iteration.Outcomes
import PriceRelay.Proofs.Iteration.Questions
/-!
What an iteration asks. Signs of life come from the loop alone: nodes and contracts give none, and
neither does an iteration over them, however it fetches, decides and delivers.
-/

namespace PriceRelay

open Activity

/-- Anything but a sign of life. -/
def Ask.Silent (question : Ask) : Prop := question ≠ .ping

def Rpc.Silent (rpc : Rpc) : Prop := ∀ call, (rpc.request call).Uses Ask.Silent

def Adapter.Silent (adapter : Adapter) : Prop := ∀ call, (adapter.perform call).Uses Ask.Silent

theorem Ask.Elsewhere.silent (question : Ask) (elsewhere : question.Elsewhere) :
    question.Silent := by
  rintro rfl
  exact elsewhere

theorem Rpc.node_silent (provider : Nat) : (Rpc.node provider).Silent :=
  node_asks fun _ => nofun

theorem Rpc.ofUrls_silent {urls : List String} {single all : Millis} {rpc : Rpc}
    (made : ofUrls? urls single all = .ok rpc) : rpc.Silent :=
  ofUrls_asks (fun _ _ _ => nofun) (fun _ _ => nofun) made

theorem Rpc.Silent.usesAt {rpc : Rpc} (silent : rpc.Silent) (block : Nat) :
    rpc.UsesAt block Ask.Silent :=
  fun call _ => silent call

theorem Adapter.Silent.usesAt {adapter : Adapter} (silent : adapter.Silent) (block : Nat) :
    adapter.UsesAt block Ask.Silent :=
  fun call _ => silent call

theorem AdapterCall.exists_isAt (call : AdapterCall) : ∃ block, call.IsAt block := by
  cases call with
  | readState feeds block => exact ⟨block, rfl⟩
  | threshold block => exact ⟨block, rfl⟩
  | simulate update feeds block => exact ⟨block, rfl⟩
  | build feeds packages timestamp => exact ⟨0, trivial⟩
  | submit call => exact ⟨0, trivial⟩

theorem Adapter.atSite_silent {site : Adapter.Site} (silent : site.rpc.Silent) :
    (Adapter.atSite site).Silent := by
  intro call
  obtain ⟨block, same⟩ := call.exists_isAt
  exact Adapter.atSite_uses Ask.Elsewhere.silent (silent.usesAt block) call same

/-- The node and the contract of an auction give no signs of life. -/
structure AuctionLane.Silent (lane : AuctionLane) : Prop where
  adapter : lane.adapter.Silent
  rpc : lane.rpc.Silent

structure DeliveryManager.Silent (manager : DeliveryManager) : Prop where
  adapter : manager.adapter.Silent
  auction : ∀ lane ∈ manager.auction?, lane.Silent

theorem DeliveryManager.Silent.usesAt {manager : DeliveryManager} (silent : manager.Silent)
    (block : Nat) : manager.UsesAt block Ask.Silent where
  adapter := silent.adapter.usesAt block
  auction lane entered :=
    have quiet := silent.auction lane entered
    ⟨quiet.adapter.usesAt block, quiet.rpc.usesAt block⟩

namespace Relayer

/-- The nodes and contracts of a relayer give no signs of life. -/
structure Silent (relayer : Relayer) : Prop where
  adapter : relayer.fetcher.adapter.Silent
  rpc : relayer.fetcher.rpc.Silent
  delivery : relayer.delivery.Silent

theorem ofConfig_silent {adapter : Adapter} {rpc : Rpc} (reads : adapter.Silent)
    (node : rpc.Silent) (config : Config) (triggers : TriggerSet) :
    (ofConfig config triggers adapter rpc).Silent := by
  refine ⟨reads, node, reads, fun lane member => ?_⟩
  obtain ⟨settings, -, rfl⟩ := Option.map_eq_some_iff.mp member
  exact ⟨reads, node⟩

theorem ofTwoFeeds_silent : ofTwoFeeds.Silent :=
  have adapter : ofTwoFeeds.fetcher.adapter.Silent := Adapter.atSite_silent (Rpc.node_silent 0)
  ⟨adapter, Rpc.node_silent 0, adapter, nofun⟩

variable {relayer : Relayer}

/-- An iteration gives no sign of life. -/
theorem iterate_silent (silent : relayer.Silent) : relayer.iterate.Uses Ask.Silent := by
  have works : relayer.work.Uses Ask.Silent := by
    rw [work_eq]
    exact (silent.rpc .blockNumber).mapError.andThen fun block =>
      workAt_uses Ask.Elsewhere.silent (silent.adapter.usesAt block) (silent.delivery.usesAt block)
  unfold iterate
  split
  · exact works
  · refine (Task.uses_clock Ask.Elsewhere.silent).bind fun now => ?_
    split
    · exact (Task.uses_note Ask.Elsewhere.silent _).bind fun _ => trivial
    · exact works

variable {record : List (Exchange world)} {spent : Millis}

theorem Iterated.silent (iterated : relayer.Iterated record spent) (silent : relayer.Silent) :
    record.countP isPing = 0 := by
  obtain ⟨course, outcome, ends, rfl⟩ := iterated
  have quiet : ∀ exchange ∈ course, ¬isPing exchange = true := by
    intro exchange member ping
    have other : exchange.question ≠ .ping := (iterate_silent silent).asked ends member
    unfold isPing at ping
    split at ping
    · exact other ‹_›
    · cases ping
  rw [List.countP_append, List.countP_eq_zero.mpr quiet]
  cases outcome <;> rfl

end Relayer

end PriceRelay
