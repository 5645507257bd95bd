import PriceRelay.Proofs.Auction.Acceptance
import PriceRelay.Proofs.Iteration.Questions
import PriceRelay.Proofs.Iteration.Skipped
/-!
One block for an iteration. It first asks for the number of the block, and does nothing else without
it. All that it reads and simulates after is at that block, and so are its decision and its delivery.
-/

namespace PriceRelay

open Activity

/-- A question that may be asked on a block: if it carries a call to a node, the call is at that
block. -/
def Ask.OnBlock (carries : RpcCall → Ask → Prop) (block : Nat) (question : Ask) : Prop :=
  question.Elsewhere ∨ ∃ call : RpcCall, call.IsAt block ∧ carries call question

theorem Ask.Elsewhere.onBlock {carries : RpcCall → Ask → Prop} {block : Nat} (question : Ask)
    (elsewhere : question.Elsewhere) : question.OnBlock carries block := .inl elsewhere

/-- An adapter over a contract that is reached through a node. -/
def Adapter.Deployed (adapter : Adapter) (carries : RpcCall → Ask → Prop) : Prop :=
  ∃ site : Adapter.Site, adapter = Adapter.atSite site ∧ site.rpc.Asks carries

/-- The contract and the node of an auction. -/
structure AuctionLane.Deployed (lane : AuctionLane) (carries : RpcCall → Ask → Prop) : Prop where
  adapter : lane.adapter.Deployed carries
  rpc : lane.rpc.Asks carries

/-- Its contracts are reached through nodes, and it is known which questions carry the calls to
these. -/
structure Relayer.Deployed (relayer : Relayer) (carries : RpcCall → Ask → Prop) : Prop where
  adapter : relayer.fetcher.adapter.Deployed carries
  rpc : relayer.fetcher.rpc.Asks carries
  delivery : relayer.delivery.adapter.Deployed carries
  watched : relayer.delivery.rpc.Asks carries
  auction : ∀ lane ∈ relayer.delivery.auction?, lane.Deployed carries

section

variable {carries : RpcCall → Ask → Prop}

theorem Rpc.Asks.usesAt {rpc : Rpc} (asks : rpc.Asks carries) (block : Nat) :
    rpc.UsesAt block (Ask.OnBlock carries block) := by
  intro call same
  exact (asks call).mono fun question carried => .inr ⟨call, same, carried⟩

theorem Adapter.Deployed.usesAt {adapter : Adapter} (deployed : adapter.Deployed carries)
    (block : Nat) : adapter.UsesAt block (Ask.OnBlock carries block) := by
  obtain ⟨site, rfl, asks⟩ := deployed
  exact Adapter.atSite_uses Ask.Elsewhere.onBlock (asks.usesAt block)

theorem Relayer.ofConfig_deployed {site : Adapter.Site} {rpc : Rpc}
    (reached : site.rpc.Asks carries) (asks : rpc.Asks carries) (config : Config)
    (triggers : TriggerSet) :
    (ofConfig config triggers (Adapter.atSite site) rpc).Deployed carries := by
  have adapter : (Adapter.atSite site).Deployed carries := ⟨site, rfl, reached⟩
  refine ⟨adapter, asks, adapter, asks, fun lane member => ?_⟩
  obtain ⟨settings, -, rfl⟩ := Option.map_eq_some_iff.mp member
  exact ⟨adapter, asks⟩

end

theorem Fetched.decisionWith_block (fetched : Fetched) (engine : Engine)
    (answer : Option PackageSet) : (fetched.decisionWith engine answer).block = fetched.block :=
  engine.evaluate_block (fetched.contextWith answer)

namespace Relayer

/-- Inputs are fetched at a block, and a decision is made on it. -/
structure DecidesOn (relayer : Relayer) (block : Nat) (trace : List (Exchange world))
    (fetched : Fetched) (decision : Decision) : Prop where
  course : ∃ fetching deciding early late, trace = fetching ++ deciding ∧
    (relayer.fetcher.fetchAt block).Ends fetching early (.ok fetched) ∧
    (fetched.decide relayer.engine).Ends deciding late decision
  fetched : fetched.block = block
  decided : decision.block = block

/-- What an iteration does on a block. -/
inductive WorksOn (relayer : Relayer) (block : Nat) :
    List (Exchange world) → Except Failure IterationOutcome → Prop where
  /-- The inputs cannot be fetched. -/
  | unfetched {trace : List (Exchange world)} {spent : Millis} {failure : Failure}
      (fails : (relayer.fetcher.fetchAt block).Ends trace spent (.error failure)) :
      WorksOn relayer block trace (.error failure)
  /-- There is nothing to write. -/
  | idle {trace : List (Exchange world)} {fetched : Fetched} {decision : Decision}
      (decides : relayer.DecidesOn block trace fetched decision)
      (nothing : decision.shouldUpdate = false) : WorksOn relayer block trace (.ok .noUpdate)
  /-- There is no call that writes it. -/
  | unbuilt {before building : List (Exchange world)} {fetched : Fetched} {decision : Decision}
      {spent : Millis} {failure : Failure}
      (decides : relayer.DecidesOn block before fetched decision)
      (fails : (relayer.deliveryRequest fetched decision).Ends building spent (.error failure)) :
      WorksOn relayer block (before ++ building) (.error failure)
  /-- The update is delivered, on the same block. -/
  | delivered {before building delivering : List (Exchange world)} {fetched : Fetched}
      {decision : Decision} {request : DeliveryRequest} {outcome : DeliveryOutcome}
      {early late : Millis} (decides : relayer.DecidesOn block before fetched decision)
      (builds : (relayer.deliveryRequest fetched decision).Ends building early (.ok request))
      (same : request.block = block)
      (delivers : (relayer.delivery.deliver request).Ends delivering late outcome) :
      WorksOn relayer block (before ++ (building ++ delivering)) (.ok (.updated outcome))

/-- The course of an iteration that asks for its block first. -/
inductive OneBlock (relayer : Relayer) (carries : RpcCall → Ask → Prop) :
    List (Exchange world) → Except Failure IterationOutcome → Prop where
  /-- Without the number of the block nothing else is done. -/
  | unknown {reading : List (Exchange world)} {spent : Millis} {cause : Failure}
      (reads : (relayer.fetcher.rpc.request .blockNumber).Ends reading spent (.error cause))
      (first : ∀ exchange ∈ reading, carries .blockNumber exchange.question) :
      OneBlock relayer carries reading (.error (.text "Failed to fetch block number"))
  /-- All the rest is on the block of the answer, and so is what sending asks of a node, and watching
  what was sent. -/
  | known {reading rest : List (Exchange world)} {spent : Millis} {block : Nat}
      {result : Except Failure IterationOutcome}
      (reads : (relayer.fetcher.rpc.request .blockNumber).Ends reading spent (.ok block))
      (first : ∀ exchange ∈ reading, carries .blockNumber exchange.question)
      (works : relayer.WorksOn block rest result)
      (asks : ∀ exchange ∈ rest, exchange.question.OnBlock carries block)
      (sends : ∀ node : Rpc, node.Asks carries → ∀ (sender : Sender) (call : UpdateCall),
        (sender.submit node call).Uses (Ask.OnBlock carries block))
      (watches : (relayer.watch result).Uses (Ask.OnBlock carries block)) :
      OneBlock relayer carries (reading ++ rest) result

variable {relayer : Relayer} {block : Nat} {trace : List (Exchange world)} {elapsed : Millis}
  {result : Except Failure IterationOutcome}

theorem DecidesOn.carryOut {before : List (Exchange world)} {fetched : Fetched}
    {decision : Decision} (decides : relayer.DecidesOn block before fetched decision)
    (ends : (relayer.carryOut fetched decision).Ends trace elapsed result) :
    relayer.WorksOn block (before ++ trace) result := by
  cases carryOut_ends ends with
  | idle nothing =>
    rw [List.append_nil]
    exact .idle decides nothing
  | unbuilt updates fails => exact .unbuilt decides fails
  | delivered updates builds delivers =>
    have prepares := deliveryRequest_ok_iff.mpr ⟨_, builds, rfl⟩
    exact .delivered decides prepares decides.fetched delivers

theorem workAt_worksOn (ends : (relayer.workAt block).Ends trace elapsed result) :
    relayer.WorksOn block trace result := by
  rcases ends_andThen ends with ⟨failure, fails, rfl⟩ | parts
  · exact .unfetched fails
  · obtain ⟨fetching, rest, _, _, fetched, rfl, -, fetches, onward⟩ := parts
    obtain ⟨deciding, carrying, _, _, decision, rfl, -, decides, carried⟩ := ends_bind_iff.mp onward
    have same := Fetcher.fetchAt_block fetches
    obtain ⟨answer, made⟩ := Fetched.decide_ends decides
    rw [← List.append_assoc]
    refine DecidesOn.carryOut ⟨⟨fetching, deciding, _, _, rfl, fetches, decides⟩, same, ?_⟩ carried
    rw [made, Fetched.decisionWith_block, same]

section

variable {carries : RpcCall → Ask → Prop}

theorem Deployed.workAt_uses (deployed : relayer.Deployed carries) (block : Nat) :
    (relayer.workAt block).Uses (Ask.OnBlock carries block) := by
  apply Relayer.workAt_uses Ask.Elsewhere.onBlock (deployed.adapter.usesAt block)
  refine ⟨deployed.delivery.usesAt block, fun lane entered => ?_⟩
  have reached := deployed.auction lane entered
  exact ⟨reached.adapter.usesAt block, reached.rpc.usesAt block⟩

/-- An iteration that is not paused asks for its block, and works on it. -/
theorem work_oneBlock (deployed : relayer.Deployed carries)
    (ends : relayer.work.Ends trace elapsed result) : relayer.OneBlock carries trace result := by
  have first {reading : List (Exchange world)} {spent : Millis} {answer : Except Failure Nat}
      (reads : (relayer.fetcher.rpc.request .blockNumber).Ends reading spent answer) :
      ∀ exchange ∈ reading, carries .blockNumber exchange.question :=
    fun _ => (deployed.rpc .blockNumber).asked reads
  rw [work_eq] at ends
  -- What is said of a failure replaces its cause, and leaves an answer as it is.
  rcases ends_andThen ends with ⟨failure, fails, rfl⟩ | parts
  · obtain ⟨answer, reads, same⟩ := ends_mapError_iff.mp fails
    cases answer with
    | ok block => cases same
    | error cause =>
      cases same
      exact .unknown reads (first reads)
  · obtain ⟨reading, rest, _, _, block, rfl, -, known, onward⟩ := parts
    obtain ⟨answer, reads, same⟩ := ends_mapError_iff.mp known
    cases answer with
    | error cause => cases same
    | ok number =>
      cases same
      refine .known reads (first reads) (workAt_worksOn onward) ?_ ?_ ?_
      · intro exchange member
        exact (deployed.workAt_uses block).asked onward member
      · intro node asks sender call
        exact Sender.submit_uses (asks.usesAt block) sender call
      · exact watch_uses Ask.Elsewhere.onBlock (deployed.watched.usesAt block) result

end

/-- Over any contracts and nodes, an iteration is paused and asks no node, or it asks for the number
of the block before anything else of a node. Without an answer it ends there; with one, every call to
a node is at that block, and the inputs, the decision and the delivery are on it. -/
theorem iterate_oneBlock (relayer : Relayer) (carries : RpcCall → Ask → Prop)
    (trace : List (Exchange world)) (elapsed : Millis)
    (result : Except Failure IterationOutcome) (deployed : relayer.Deployed carries)
    (ends : relayer.iterate.Ends trace elapsed result) :
    (∃ now event, trace = [⟨.clock, now⟩, ⟨.note event, ()⟩] ∧ result = .ok .paused) ∨
      ∃ opening rest, trace = opening ++ rest ∧
        (∀ exchange ∈ opening, exchange.question = .clock) ∧
        relayer.OneBlock carries rest result := by
  unfold iterate at ends
  split at ends
  · exact .inr ⟨[], trace, rfl, by simp, work_oneBlock deployed ends⟩
  · obtain ⟨now, rest, rfl, onward⟩ := ends_question_bind_iff.mp ends
    split at onward
    · obtain ⟨_, _, rfl, ended⟩ := ends_question_bind_iff.mp onward
      obtain ⟨rfl, -, rfl⟩ := ends_done_iff.mp ended
      exact .inl ⟨now, _, rfl, rfl⟩
    · have clock : ∀ exchange ∈ [(⟨.clock, now⟩ : Exchange world)], exchange.question = .clock :=
        List.forall_mem_singleton.mpr rfl
      exact .inr ⟨[⟨.clock, now⟩], rest, rfl, clock, work_oneBlock deployed onward⟩

def ofNodeFeed : Relayer :=
  let node := Rpc.node 0
  let adapter := Adapter.atSite
    ⟨.multiFeed, AuctionLane.sampleContract, node, FixedBytes.ofNat 20 3⟩
  { fetcher := { adapter, rpc := node, feeds := ["ETH"], service := "main" }
    engine := ofHourlyFeed.engine
    delivery :=
      { adapter, rpc := node, settings := ⟨1, 0, 0, 0⟩
        auction? := some ⟨adapter, node, 1, ⟨100, 100, 100, 10, true, false⟩⟩ } }

def carriesToNode (call : RpcCall) (question : Ask) : Prop := question = .rpc 0 call

theorem ofNodeFeed_deployed : ofNodeFeed.Deployed carriesToNode := by
  have asks : (Rpc.node 0).Asks carriesToNode := Rpc.node_asks fun _ => rfl
  have adapter : ofNodeFeed.adapter.Deployed carriesToNode := ⟨_, rfl, asks⟩
  refine ⟨adapter, asks, adapter, asks, ?_⟩
  rintro _ ⟨⟩
  exact ⟨adapter, asks⟩

/-- A world at its seventh block. A price of one is stored, the gateways have packages in which it has
doubled, and the auction returns a transaction. -/
def seventhBlock : Host world Unit where
  answer question state := match question with
    | .rpc _ .blockNumber => (⟨0, .ok (7 : Nat)⟩, state)
    | .rpc _ (.call _ data _) => (⟨0, .ok (
      if data.length = 4 then Abi.word 1
      else Abi.behindOffset (Abi.list [Abi.word 1000 ++ Abi.word 1 ++ Abi.word 100000000]))⟩, state)
    | .packages .. => (⟨0, .ok (doubledAt 2000)⟩, state)
    | .clock => ((3000 : Nat), state)
    | other => AuctionLane.sampleWorld.answer other state

def calledAt (trace : List (Exchange world)) : List Nat :=
  trace.filterMap fun exchange => match exchange.question with
    | .rpc _ (.call _ _ block) => some block
    | _ => none

/-- The state, the threshold and the simulation of the returned transaction are called for at the
block that the node told. -/
theorem iterate_oneBlock_seventh :
    ofNodeFeed.Deployed carriesToNode ∧
      ∃ trace elapsed outcome, ofNodeFeed.iterate.Ends trace elapsed (.ok (.updated outcome)) ∧
        calledAt trace = [7, 7, 7] ∧
        ∃ opening rest, trace = opening ++ rest ∧
          (∀ exchange ∈ opening, exchange.question = .clock) ∧
          ofNodeFeed.OneBlock carriesToNode rest (.ok (.updated outcome)) := by
  refine ⟨ofNodeFeed_deployed, ?_⟩
  have called : calledAt (ofNodeFeed.iterate.history seventhBlock ()) = [7, 7, 7] := by
    decide +kernel
  have delivered : (ofNodeFeed.iterate.run seventhBlock ()).result.toOption =
      some (.updated (.failed (DeliveryManager.failReason 1))) := by decide +kernel
  have ends := run_ends seventhBlock ofNodeFeed.iterate ()
  have course := iterate_oneBlock ofNodeFeed carriesToNode _ _ _ ofNodeFeed_deployed ends
  cases result : (ofNodeFeed.iterate.run seventhBlock ()).result with
  | error failure =>
    rw [result] at delivered
    cases delivered
  | ok outcome =>
    rw [result] at delivered ends course
    obtain rfl := Option.some.inj delivered
    refine ⟨_, _, _, ends, called, ?_⟩
    rcases course with ⟨_, _, _, paused⟩ | course
    · cases paused
    · exact course

end Relayer

end PriceRelay
