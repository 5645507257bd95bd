import PriceRelay.Adapter.Deployed
import PriceRelay.Chain.Endpoint
import PriceRelay.Chain.Sender
import PriceRelay.Iteration.Relayer
import PriceRelay.Proofs.Activity.Uses
/-!
What an iteration asks after it knows its block. Nodes and contracts are asked at that block; all
else is asked elsewhere. So whatever is said of both of these holds of every question of an
iteration, however it fetches, decides and delivers.
-/

namespace PriceRelay

open Activity

namespace Rpc

/-- For each call a node asks what is allowed for it. -/
def Asks (rpc : Rpc) (allowed : RpcCall → Ask → Prop) : Prop :=
  ∀ call, (rpc.request call).Uses (allowed call)

variable {allowed : RpcCall → Ask → Prop}

theorem node_asks {provider : Nat} (may : ∀ call, allowed call (.rpc provider call)) :
    (Rpc.node provider).Asks allowed :=
  fun call => Task.uses_rpc (may call)

def sent (url : String) (call : RpcCall) : WebCall :=
  { method := .post, url, body? := some call.body }

theorem endpoint_asks {url : String} (may : ∀ call, allowed call (.fetch (sent url call)))
    (limit : Millis) : (endpoint url limit).Asks allowed := by
  intro call
  have fetches : (Task.fetch (sent url call)).Uses (allowed call) :=
    ⟨may call, fun reply => Task.uses_settle reply⟩
  refine fetches.within.bind fun answer => ?_
  split <;> exact trivial

section

variable (notes : ∀ call event, allowed call (.note event))

include notes

theorem firstAnswer_asks {call : RpcCall} {nodes : List Rpc} {last : Failure}
    (asks : ∀ node ∈ nodes, node.Asks allowed) :
    (firstAnswer call nodes last).Uses (allowed call) := by
  induction nodes generalizing last with
  | nil => exact trivial
  | cons node rest ih =>
    refine (asks node List.mem_cons_self call).bind fun answer => ?_
    cases answer with
    | ok answer => exact trivial
    | error failure =>
      have reports : (Task.note (providerFailed failure)).Uses (allowed call) :=
        ⟨notes call _, fun _ => trivial⟩
      refine reports.bind fun _ => ?_
      exact ih fun other member => asks other (List.mem_cons_of_mem node member)

theorem fallback_asks {nodes : List Rpc} (asks : ∀ node ∈ nodes, node.Asks allowed)
    (limit : Millis) : (fallback nodes limit).Asks allowed := by
  intro call
  refine (firstAnswer_asks notes asks).within.bind fun answer => ?_
  split <;> exact trivial

theorem observed_asks {rpc : Rpc} (asks : rpc.Asks allowed) : rpc.observed.Asks allowed := by
  intro call
  refine (asks call).bind fun answer => ?_
  cases answer with
  | ok answer => exact trivial
  | error failure =>
    have reports (event : Event) : (Task.note event).Uses (allowed call) :=
      ⟨notes call event, fun _ => trivial⟩
    exact (reports _).bind fun _ => trivial

end

theorem endpoints_ask {urls : List String}
    (may : ∀ url ∈ urls, ∀ call, allowed call (.fetch (sent url call))) {limit : Millis}
    {nodes : List Rpc} (made : urls.mapM (endpoint? limit) = .ok nodes) :
    ∀ node ∈ nodes, node.Asks allowed := by
  induction urls generalizing nodes with
  | nil =>
    cases made
    nofun
  | cons url rest ih =>
    obtain ⟨one, later⟩ := List.forall_mem_cons.mp may
    rw [List.mapM_cons] at made
    unfold endpoint? at made
    split at made
    · cases others : rest.mapM (endpoint? limit) with
      | error failure =>
        unfold endpoint? at others
        rw [others] at made
        cases made
      | ok nodes =>
        have asks := ih later others
        unfold endpoint? at others
        rw [others] at made
        cases made
        exact List.forall_mem_cons.mpr ⟨endpoint_asks one limit, asks⟩
    · cases made

theorem ofUrls_asks {urls : List String}
    (may : ∀ url ∈ urls, ∀ call, allowed call (.fetch (sent url call)))
    (notes : ∀ call event, allowed call (.note event)) {single all : Millis} {rpc : Rpc}
    (made : ofUrls? urls single all = .ok rpc) : rpc.Asks allowed := by
  unfold ofUrls? at made
  cases found : urls.mapM (endpoint? single) with
  | error failure =>
    rw [found] at made
    cases made
  | ok nodes =>
    rw [found] at made
    change (fallback? nodes all >>= fun node => pure node.observed) = _ at made
    unfold fallback? at made
    split at made
    · cases made
    · cases made
      exact observed_asks notes (fallback_asks notes (endpoints_ask may found) all)

end Rpc

/-- A question that neither a node nor a contract answers, and that is no sign of life. -/
def Ask.Elsewhere : Ask → Prop
  | .packages .. | .bids .. | .submit _ | .sign _ | .age _ | .clock | .note _ => True
  | .rpc .. | .adapter _ | .ping | .fetch _ => False

def RpcCall.IsAt (block : Nat) : RpcCall → Prop
  | .blockNumber => False
  | .call _ _ other => other = block
  | .gasPrice | .priorityFee | .baseFee | .transactionCount _ | .send _ | .receipt _ => True

def AdapterCall.IsAt (block : Nat) : AdapterCall → Prop
  | .readState _ other | .threshold other | .simulate _ _ other => other = block
  | .build .. | .submit _ => True

/-- For its calls at a block a node asks what is allowed. -/
def Rpc.UsesAt (rpc : Rpc) (block : Nat) (allowed : Ask → Prop) : Prop :=
  ∀ call : RpcCall, call.IsAt block → (rpc.request call).Uses allowed

def Adapter.UsesAt (adapter : Adapter) (block : Nat) (allowed : Ask → Prop) : Prop :=
  ∀ call : AdapterCall, call.IsAt block → (adapter.perform call).Uses allowed

/-- For its calls at a block an auction asks what is allowed. -/
structure AuctionLane.UsesAt (lane : AuctionLane) (block : Nat) (allowed : Ask → Prop) : Prop where
  adapter : lane.adapter.UsesAt block allowed
  rpc : lane.rpc.UsesAt block allowed

/-- For its calls at a block a delivery asks what is allowed, and so does its auction. -/
structure DeliveryManager.UsesAt (manager : DeliveryManager) (block : Nat) (allowed : Ask → Prop) :
    Prop where
  adapter : manager.adapter.UsesAt block allowed
  auction : ∀ lane ∈ manager.auction?, lane.UsesAt block allowed

section

variable {allowed : Ask → Prop} (elsewhere : ∀ question : Ask, question.Elsewhere → allowed question)
  {block : Nat}

namespace Task

include elsewhere

theorem uses_note (event : Event) : (Task.note event).Uses allowed :=
  ⟨elsewhere _ trivial, fun _ => trivial⟩

theorem uses_clock : Task.clock.Uses allowed := ⟨elsewhere _ trivial, fun _ => trivial⟩

theorem uses_packages (past : Bool) (request : Request) :
    (Task.packages past request).Uses allowed :=
  ⟨elsewhere _ trivial, fun reply => uses_settle reply⟩

end Task

namespace Adapter

namespace Site

variable {site : Site}

theorem decoded_uses {α : Type} (failure : Failure) (read? : Bytes → Option α) (answer : Bytes) :
    (decoded failure read? answer).Uses allowed := by
  unfold decoded
  split <;> exact trivial

theorem readState_uses (uses : site.rpc.UsesAt block allowed) (feeds : List FeedId) :
    (site.readState feeds block).Uses allowed := by
  have call (data : Bytes) : (site.call data block).Uses allowed := uses _ rfl
  unfold readState
  split
  · refine Uses.andThen trivial fun slots => ?_
    refine (call _).mapError.andThen fun answer => ?_
    exact (decoded_uses ..).andThen fun _ => trivial
  · refine Uses.andThen trivial fun slots => ?_
    refine Uses.andThen (Uses.tryBoth ?_ ?_) fun _ => trivial
    · exact (call _).mapError.andThen (decoded_uses _ _)
    · exact (call _).mapError.andThen (decoded_uses _ _)

theorem threshold_uses (uses : site.rpc.UsesAt block allowed) :
    (site.threshold block).Uses allowed :=
  (uses (.call ..) rfl).andThen (decoded_uses _ _)

theorem simulate_uses (uses : site.rpc.UsesAt block allowed) (update : Bytes)
    (feeds : List FeedId) : (site.simulate update feeds block).Uses allowed := by
  refine Uses.andThen trivial fun slots => ?_
  refine (uses (.call ..) rfl).mapError.andThen fun answer => ?_
  refine (decoded_uses ..).andThen fun results => ?_
  exact Uses.andThen trivial (decoded_uses _ _)

end Site

include elsewhere

theorem atSite_uses {site : Site} (uses : site.rpc.UsesAt block allowed) :
    (atSite site).UsesAt block allowed := by
  intro call same
  cases call with
  | readState feeds other =>
    obtain rfl : other = block := same
    exact Site.readState_uses uses feeds
  | threshold other =>
    obtain rfl : other = block := same
    exact Site.threshold_uses uses
  | build feeds packages timestamp => exact trivial
  | submit call => exact ⟨elsewhere _ trivial, fun reply => Task.uses_settle reply⟩
  | simulate update feeds other =>
    obtain rfl : other = block := same
    exact Site.simulate_uses uses update feeds

end Adapter

namespace Inclusion

variable {rpc : Rpc} {hash : Hash}

theorem poll_uses (uses : rpc.UsesAt block allowed) (interval : Millis) (lookups : Nat) :
    (poll rpc hash interval lookups).Uses allowed := by
  induction lookups with
  | zero => exact trivial
  | succ lookups ih =>
    refine (uses (.receipt hash) trivial).bind fun answer => ?_
    split
    · exact trivial
    · exact Task.uses_after ih

theorem wait_uses (uses : rpc.UsesAt block allowed) (interval limit : Millis) :
    (wait rpc hash interval limit).Uses allowed := by
  refine (poll_uses uses interval _).within.bind fun receipt => ?_
  split <;> exact trivial

include elsewhere in
theorem watch_uses (uses : rpc.UsesAt block allowed) (interval limit : Millis) :
    (watch rpc hash interval limit).Uses allowed := by
  refine (wait_uses uses interval limit).bind fun result => ?_
  cases result with
  | ok receipt => exact Task.uses_note elsewhere _
  | error failure => exact Task.uses_note elsewhere _

end Inclusion

theorem GasStrategy.fetch_uses {rpc : Rpc} (uses : rpc.UsesAt block allowed)
    (strategy : GasStrategy) : (strategy.fetch rpc).Uses allowed := by
  cases strategy with
  | legacy gas => exact (uses .gasPrice trivial).bind fun _ => trivial
  | eip1559 gas =>
    have fees := (uses .baseFee trivial).both (uses .priorityFee trivial)
    exact fees.bind fun _ => trivial

theorem Sender.submit_uses {rpc : Rpc} (uses : rpc.UsesAt block allowed) (sender : Sender)
    (call : UpdateCall) : (sender.submit rpc call).Uses allowed := by
  have prices (sender : Sender) : (sender.fees rpc).Uses allowed :=
    (GasStrategy.fetch_uses uses _).bind fun _ => trivial
  have syncs (sender : Sender) : (sender.sync rpc).Uses allowed := by
    refine (uses (.transactionCount _) trivial).bind fun answer => ?_
    cases answer <;> exact trivial
  refine (prices _).bind fun (fees, priced) => ?_
  refine (uses (.send _) trivial).bind fun answer => ?_
  cases answer with
  | ok hash => exact trivial
  | error failure => exact (syncs priced).bind fun _ => trivial

namespace AuctionLane

variable {lane : AuctionLane} {packages : PackageSet}

theorem legs_uses (uses : lane.UsesAt block allowed) (call : UpdateCall) (timestamp : Millis) :
    (lane.legs call packages timestamp).Uses allowed := by
  unfold legs
  split
  · exact trivial
  · induction call.feeds with
    | nil => exact trivial
    | cons feed rest ih =>
      refine (uses.adapter (.build ..) trivial).andThen fun call => ?_
      exact ih.andThen fun _ => trivial

theorem checks_uses (uses : lane.UsesAt block allowed) (transaction : SignedTransaction)
    (feeds : List FeedId) : (lane.checks transaction feeds packages block).Uses allowed := by
  have prices : (lane.checkPrices transaction feeds packages block).Uses allowed :=
    (uses.adapter (.simulate ..) rfl).mapError.andThen fun _ => trivial
  have included : (lane.checkIncluded transaction.hash).Uses allowed := by
    refine (Inclusion.wait_uses uses.rpc _ _).bind fun receipt => ?_
    cases receipt <;> exact trivial
  have gasPrice : (lane.checkGasPrice transaction).Uses allowed := by
    unfold checkGasPrice
    split
    · exact (uses.rpc .gasPrice trivial).mapError.andThen fun _ => trivial
    · exact trivial
  exact (prices.tryBoth (included.tryBoth gasPrice)).andThen fun _ => trivial

theorem verify_uses (uses : lane.UsesAt block allowed) (feeds : List FeedId) (blob : Bytes) :
    (lane.verify feeds packages block blob).Uses allowed := by
  unfold verify
  split
  · exact trivial
  · unfold verifyTransaction
    split
    · refine (uses.rpc (.send _) trivial).bind fun _ => ?_
      refine (checks_uses uses _ feeds).within.bind fun verdict => ?_
      split <;> exact trivial
    · exact trivial

theorem reporting_uses (notes : ∀ event, allowed (.note event)) {α : Type}
    {event : AuctionFailure → Event} {trial : Trial α} (uses : trial.Uses allowed) :
    (reporting event trial).Uses allowed := by
  refine uses.bind fun result => ?_
  cases result with
  | ok result => exact trivial
  | error failure =>
    have reports : (Task.note (event failure)).Uses allowed := ⟨notes _, fun _ => trivial⟩
    exact reports.bind fun _ => trivial

theorem firstVerified_uses (notes : ∀ event, allowed (.note event))
    (uses : lane.UsesAt block allowed) (leg : FeedId) (feeds : List FeedId) (blobs : List Bytes) :
    (lane.firstVerified leg feeds packages block blobs).Uses allowed := by
  refine Uses.race ?_
  intro trial member
  obtain ⟨blob, -, rfl⟩ := List.mem_map.mp member
  exact reporting_uses notes (verify_uses uses feeds blob)

include elsewhere

theorem runLeg_uses (uses : lane.UsesAt block allowed) (leg : FeedId) (call : UpdateCall) :
    (lane.runLeg packages block leg call).Uses allowed := by
  have signs (message : String) : (Task.sign message).Uses allowed :=
    ⟨elsewhere _ trivial, fun reply => Task.uses_settle reply⟩
  have bids (request : AuctionRequest) : (Task.bids leg request).Uses allowed :=
    ⟨elsewhere _ trivial, fun reply => Task.uses_settle reply⟩
  have blobs (request : AuctionRequest) : (lane.blobs leg request).Uses allowed := by
    refine (bids request).within.bind fun answer => ?_
    split <;> exact trivial
  refine (signs _).mapError.andThen fun signature => ?_
  refine (blobs _).andThen fun blobs => ?_
  exact (firstVerified_uses (fun _ => elsewhere _ trivial) uses leg call.feeds blobs).andThen
    fun hash => (Task.uses_note elsewhere _).bind fun _ => trivial

theorem run_uses (uses : lane.UsesAt block allowed) (call : UpdateCall) (timestamp : Millis) :
    (lane.run call packages timestamp block).Uses allowed := by
  refine (legs_uses uses call timestamp).mapError.andThen fun legs => ?_
  have races : (lane.raceLegs packages block legs).Uses allowed := by
    refine Uses.race ?_
    intro trial member
    obtain ⟨⟨leg, own⟩, -, rfl⟩ := List.mem_map.mp member
    exact reporting_uses (fun _ => elsewhere _ trivial) (runLeg_uses elsewhere uses leg own)
  refine races.within.bind fun verdict => ?_
  split <;> exact trivial

end AuctionLane

namespace DeliveryManager

def Rebuilds (request : DeliveryRequest) (allowed : Ask → Prop) : Prop :=
  ∀ build ∈ request.regenerate?, ∀ before, (build before).Uses allowed

/-- A delivery offers in its own auction, and has calls built anew as its request says. -/
def Asks (manager : DeliveryManager) (request : DeliveryRequest) : DeliveryAsk → Prop
  | .auction lane => lane ∈ manager.auction?
  | .regenerate build _ => build ∈ request.regenerate?
  | .age _ | .submit _ => True

variable {manager : DeliveryManager} {request : DeliveryRequest}

theorem prepare_asks (afterAuction : Bool) (progress : Progress) :
    (manager.prepare request afterAuction progress).Uses (manager.Asks request) := by
  have age : (Procedure.age progress.call).Uses (manager.Asks request) :=
    ⟨trivial, fun _ => trivial⟩
  refine age.bind fun age => ?_
  split
  next build some =>
    have regenerate (before : Nat) :
        (Procedure.regenerate build before).Uses (manager.Asks request) :=
      ⟨some, fun _ => trivial⟩
    dsimp only
    split
    · refine (regenerate _).bind fun fresh => ?_
      cases fresh <;> exact trivial
    · exact trivial
  next => exact trivial

theorem attempt_asks (afterAuction : Bool) (left : Nat) (progress : Progress) :
    (manager.attempt request afterAuction left progress).Uses (manager.Asks request) := by
  induction left generalizing progress with
  | zero => exact trivial
  | succ left ih =>
    have submit (call : UpdateCall) : (Procedure.submit call).Uses (manager.Asks request) :=
      ⟨trivial, fun _ => trivial⟩
    refine (prepare_asks afterAuction progress).bind fun prepared => ?_
    split
    · exact ih _
    · refine (submit _).bind fun result => ?_
      cases result with
      | ok dispatched => exact trivial
      | error failure => exact ih _

theorem procedure_asks : (manager.procedure request).Uses (manager.Asks request) := by
  have sends (auctionWon fallbackUsed : Bool) :
      (manager.sendAfter request auctionWon fallbackUsed).Uses (manager.Asks request) := by
    refine (attempt_asks _ _ _).bind fun dispatched => ?_
    cases dispatched <;> exact trivial
  unfold procedure
  split
  next => exact sends false false
  next lane some =>
    have auction : (Procedure.auction lane).Uses (manager.Asks request) :=
      ⟨some, fun _ => trivial⟩
    refine auction.bind fun result => ?_
    cases result with
    | ok win => exact sends true false
    | error failure =>
      dsimp only
      split
      · exact trivial
      · exact sends false true

include elsewhere

/-- A delivery is made at the block of its request. -/
theorem deliver_uses (uses : manager.UsesAt request.block allowed)
    (rebuilds : Rebuilds request allowed) : (manager.deliver request).Uses allowed := by
  refine procedure_asks.carryOut fun question asked => ?_
  cases question with
  | auction lane => exact AuctionLane.run_uses elsewhere (uses.auction lane asked) _ _
  | age call => exact ⟨elsewhere _ trivial, fun _ => trivial⟩
  | regenerate build before => exact rebuilds build asked before
  | submit call => exact uses.adapter (.submit call) trivial

end DeliveryManager

include elsewhere

theorem Fetcher.fetchAt_uses {fetcher : Fetcher} (uses : fetcher.adapter.UsesAt block allowed) :
    (fetcher.fetchAt block).Uses allowed := by
  have state := uses (.readState fetcher.feeds block) rfl
  refine (state.tryBoth (uses (.threshold block) rfl)).andThen fun (contract, threshold) => ?_
  refine (Task.uses_packages elsewhere _ _).mapError.andThen fun packages => ?_
  exact (Task.uses_clock elsewhere).bind fun _ => trivial

omit elsewhere in
theorem Fetcher.fetchAt_block {fetcher : Fetcher} {fetched : Fetched}
    {trace : List (Exchange world)} {elapsed : Millis}
    (ends : (fetcher.fetchAt block).Ends trace elapsed (.ok fetched)) : fetched.block = block := by
  obtain ⟨_, _, _, _, _, -, -, -, onward⟩ := ends_andThen_ok ends
  obtain ⟨_, _, _, _, _, -, -, -, onward⟩ := ends_andThen_ok onward
  obtain ⟨_, _, -, ended⟩ := ends_question_bind_iff.mp onward
  obtain ⟨-, -, same⟩ := ends_done_iff.mp ended
  cases same
  rfl

theorem Fetched.decide_uses (fetched : Fetched) (engine : Engine) :
    (fetched.decide engine).Uses allowed := by
  unfold decide
  split
  · dsimp only
    split
    · have asks (request : Request) : (askPast request).Uses allowed := by
        refine (Task.uses_packages elsewhere _ _).bind fun answer => ?_
        cases answer <;> exact trivial
      exact (asks _).bind fun _ => trivial
    · exact trivial
  · exact trivial

namespace Relayer

variable {relayer : Relayer}

theorem rebuild_uses (uses : relayer.fetcher.adapter.UsesAt block allowed) (request : Request) :
    (relayer.rebuild request).Uses allowed := by
  refine (Task.uses_packages elsewhere _ _).andThen fun packages => ?_
  exact (Task.uses_clock elsewhere).bind fun now => uses (.build ..) trivial

theorem carryOut_uses {fetched : Fetched}
    (uses : relayer.fetcher.adapter.UsesAt fetched.block allowed)
    (delivers : relayer.delivery.UsesAt fetched.block allowed) (decision : Decision) :
    (relayer.carryOut fetched decision).Uses allowed := by
  unfold carryOut
  split
  · -- What builds the call anew is known where the request is made.
    simp only [deliveryRequest, Activity.andThen, bind_assoc]
    refine (uses (.build ..) trivial).bind fun built => ?_
    cases built with
    | ok call =>
      refine (DeliveryManager.deliver_uses elsewhere delivers ?_).bind fun _ => trivial
      rintro build ⟨⟩ before
      exact rebuild_uses elsewhere uses _
    | error failure => exact trivial
  · exact trivial

/-- What an iteration does from where it knows its block. -/
def workAt (relayer : Relayer) (block : Nat) : Attempt IterationOutcome :=
  Activity.andThen (relayer.fetcher.fetchAt block) fun fetched =>
  (fetched.decide relayer.engine).bind fun decision => relayer.carryOut fetched decision

omit elsewhere in
theorem work_eq (relayer : Relayer) :
    relayer.work = Activity.andThen
      (Task.context "Failed to fetch block number" (relayer.fetcher.rpc.request .blockNumber))
      relayer.workAt :=
  andThen_assoc _ _ _

/-- All that an iteration does after it knows its block, it does at that block. -/
theorem workAt_uses (uses : relayer.fetcher.adapter.UsesAt block allowed)
    (delivers : relayer.delivery.UsesAt block allowed) : (relayer.workAt block).Uses allowed := by
  -- Inputs that are fetched are on the block; of others nothing is known, so plain `bind` is too weak.
  refine (Fetcher.fetchAt_uses elsewhere uses).bindReached fun _ _ result reached => ?_
  cases result with
  | error failure => exact trivial
  | ok fetched =>
    obtain rfl := Fetcher.fetchAt_block reached
    refine (fetched.decide_uses elsewhere relayer.engine).bind fun decision => ?_
    exact carryOut_uses elsewhere uses delivers decision

theorem watch_uses (uses : relayer.delivery.rpc.UsesAt block allowed)
    (result : Except Failure IterationOutcome) : (relayer.watch result).Uses allowed := by
  unfold watch
  split
  · unfold DeliveryManager.watch
    split
    · exact Inclusion.watch_uses elsewhere uses _ _
    · exact trivial
  · exact trivial

end Relayer

end

end PriceRelay
