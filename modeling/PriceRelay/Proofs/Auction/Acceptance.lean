import PriceRelay.Proofs.Auction.Verification
/-!
What an auction that was won shows: a leg that was offered, the blobs that came back for it, and one
among them that was verified.
-/

namespace PriceRelay.AuctionLane

open Activity

section

variable {lane : AuctionLane} {call legCall : UpdateCall} {packages : PackageSet}
  {timestamp : Millis} {block : Nat} {trace : List (Exchange world)} {leg : FeedId}

/-- The legs of an update: the whole call, or a call built for one feed. -/
inductive LegOf (lane : AuctionLane) (call : UpdateCall) (packages : PackageSet)
    (timestamp : Millis) (trace : List (Exchange world)) : FeedId → UpdateCall → Prop where
  | batch (scope : lane.adapter.kind.scope = .allFeeds) :
      LegOf lane call packages timestamp trace batchLeg call
  | single (scope : lane.adapter.kind.scope = .perFeed) {feed : FeedId} {legCall : UpdateCall}
      (member : feed ∈ call.feeds)
      (built : (lane.adapter.perform (.build [feed] packages timestamp)).Observed trace
        (.ok legCall)) :
      LegOf lane call packages timestamp trace feed legCall

/-- Among the blobs that an auction returned for a signed call there is one with a transaction of
that hash that passed all checks. -/
def Accepted (lane : AuctionLane) (packages : PackageSet) (block : Nat)
    (trace : List (Exchange world)) (leg : FeedId) (legCall : UpdateCall) (hash : Hash) : Prop :=
  ∃ (signature : Bytes) (blobs : List Bytes) (blob : Bytes) (transaction : SignedTransaction),
    (Task.sign (AuctionRequest.message lane.chain lane.adapter.contract legCall.data)).Observed
      trace (.ok signature) ∧
    (Task.bids leg (lane.request legCall.data signature)).Observed trace (.ok blobs) ∧
    blob ∈ blobs ∧ SignedTransaction.decode blob = .ok transaction ∧ transaction.hash = hash ∧
    lane.Passed transaction legCall.feeds packages block trace

theorem feedLegs_ok {feeds : List FeedId} {offered : List (FeedId × UpdateCall)}
    (observed : (lane.feedLegs packages timestamp feeds).Observed trace (.ok offered))
    (member : (leg, legCall) ∈ offered) :
    leg ∈ feeds ∧
      (lane.adapter.perform (.build [leg] packages timestamp)).Observed trace (.ok legCall) := by
  induction feeds generalizing offered with
  | nil =>
    obtain rfl := Except.ok.inj (observed_done_iff.mp observed)
    cases member
  | cons feed rest ih =>
    obtain ⟨built, building, observed⟩ := observed_andThen_ok observed
    obtain ⟨others, legsObserved, last⟩ := observed_andThen_ok observed
    obtain rfl := Except.ok.inj (observed_done_iff.mp last)
    rcases List.mem_cons.mp member with same | later
    · cases same
      exact ⟨List.mem_cons_self, building⟩
    · obtain ⟨feedMember, legBuilt⟩ := ih legsObserved later
      exact ⟨List.mem_cons_of_mem feed feedMember, legBuilt⟩

theorem legs_ok {offered : List (FeedId × UpdateCall)}
    (observed : (lane.legs call packages timestamp).Observed trace (.ok offered))
    (member : (leg, legCall) ∈ offered) :
    lane.LegOf call packages timestamp trace leg legCall := by
  unfold legs at observed
  split at observed
  case h_1 scope =>
    obtain rfl := Except.ok.inj (observed_done_iff.mp observed)
    cases List.mem_singleton.mp member
    exact .batch scope
  case h_2 scope =>
    obtain ⟨feedMember, built⟩ := feedLegs_ok observed member
    exact .single scope feedMember built

theorem reporting_ok {α : Type} {event : AuctionFailure → Event} {trial : Trial α} {result : α}
    (observed : (reporting event trial).Observed trace (.ok result)) :
    trial.Observed trace (.ok result) := by
  obtain ⟨outcome, tried, last⟩ := observed_bind observed
  cases outcome with
  | ok value =>
    obtain rfl := Except.ok.inj (observed_done_iff.mp last)
    exact tried
  | error failure =>
    obtain ⟨_, _, reported⟩ := observed_bind last
    cases observed_done_iff.mp reported

theorem blobs_ok {request : AuctionRequest} {blobs : List Bytes}
    (observed : (lane.blobs leg request).Observed trace (.ok blobs)) :
    (Task.bids leg request).Observed trace (.ok blobs) := by
  obtain ⟨answer?, asked, last⟩ := observed_bind observed
  match answer? with
  | none => cases observed_done_iff.mp last
  | some (.error failure) => cases observed_done_iff.mp last
  | some (.ok []) => cases observed_done_iff.mp last
  | some (.ok (blob :: more)) =>
    obtain rfl := Except.ok.inj (observed_done_iff.mp last)
    exact observed_of_within_some asked

/-- A leg is won by an accepted transaction. -/
theorem runLeg_ok {win : AuctionWin}
    (observed : (lane.runLeg packages block leg legCall).Observed trace (.ok win)) :
    win.leg = leg ∧ lane.Accepted packages block trace leg legCall win.hash := by
  obtain ⟨signature, signed, observed⟩ := observed_andThen_ok observed
  obtain ⟨blobs, returned, observed⟩ := observed_andThen_ok observed
  obtain ⟨hash, raced, last⟩ := observed_andThen_ok observed
  obtain ⟨_, _, last⟩ := observed_bind last
  obtain rfl := Except.ok.inj (observed_done_iff.mp last)
  obtain ⟨activity, member, success⟩ := observed_race_ok raced
  obtain ⟨blob, blobMember, rfl⟩ := List.mem_map.mp member
  obtain ⟨transaction, decoded, same, passed⟩ := verify_ok (reporting_ok success)
  exact ⟨rfl, signature, blobs, blob, transaction, observed_mapError_ok signed, blobs_ok returned,
    blobMember, decoded, same, passed⟩

theorem run_ok {win : AuctionWin}
    (observed : (lane.run call packages timestamp block).Observed trace (.ok win)) :
    ∃ legCall, lane.LegOf call packages timestamp trace win.leg legCall ∧
      lane.Accepted packages block trace win.leg legCall win.hash := by
  obtain ⟨offered, building, observed⟩ := observed_andThen_ok observed
  obtain ⟨outcome?, raced, last⟩ := observed_bind observed
  match outcome? with
  | none => cases observed_done_iff.mp last
  | some (.error failure) => cases observed_done_iff.mp last
  | some (.ok other) =>
    obtain rfl := Except.ok.inj (observed_done_iff.mp last)
    obtain ⟨activity, member, success⟩ := observed_race_ok (observed_of_within_some raced)
    obtain ⟨⟨leg, legCall⟩, legMember, rfl⟩ := List.mem_map.mp member
    obtain ⟨rfl, accepted⟩ := runLeg_ok (reporting_ok success)
    exact ⟨legCall, legs_ok (observed_mapError_ok building) legMember, accepted⟩

theorem reporting_error {α : Type} {event : AuctionFailure → Event} {trial : Trial α}
    {failure : AuctionFailure} (observed : (reporting event trial).Observed trace (.error failure)) :
    trial.Observed trace (.error failure) := by
  obtain ⟨outcome, tried, last⟩ := observed_bind observed
  cases outcome with
  | ok value => cases observed_done_iff.mp last
  | error other =>
    obtain ⟨_, _, reported⟩ := observed_bind last
    obtain rfl := Except.error.inj (observed_done_iff.mp reported)
    exact tried

/-- Where none of some blobs is accepted, every transaction with the right target was refused. -/
theorem firstVerified_error {feeds : List FeedId} {blobs : List Bytes} {failure : AuctionFailure}
    (observed : (lane.firstVerified leg feeds packages block blobs).Observed trace
      (.error failure)) {blob : Bytes} (member : blob ∈ blobs) {transaction : SignedTransaction}
    (decoded : SignedTransaction.decode blob = .ok transaction)
    (target : transaction.target? = some lane.adapter.contract) :
    lane.Refused transaction feeds packages block trace := by
  have taking := List.mem_map_of_mem (f := fun blob =>
    reporting rejected (lane.verify feeds packages block blob)) member
  obtain ⟨reason, failed⟩ := observed_race_error observed _ taking
  exact verify_error decoded target (reporting_error failed)

end

/-- An auction is won only by a leg for which a transaction of that hash came back that passed all
checks. A transaction with the right target is verified, whatever came of sending it again, unless
one of the checks refuses it; and a leg finds none verified only if all were refused. -/
theorem run_accepts_exactly (lane : AuctionLane) (call : UpdateCall) (packages : PackageSet)
    (timestamp : Millis) (block : Nat) :
    (∀ trace elapsed win,
      (lane.run call packages timestamp block).Ends trace elapsed (.ok win) →
      ∃ legCall, lane.LegOf call packages timestamp trace win.leg legCall ∧
        lane.Accepted packages block trace win.leg legCall win.hash) ∧
    (∀ feeds blob transaction trace elapsed result,
      SignedTransaction.decode blob = .ok transaction →
      transaction.target? = some lane.adapter.contract →
      (lane.verify feeds packages block blob).Ends trace elapsed result →
      ∃ sending checking spent sent, trace = sending ++ checking ∧
        (lane.rpc.request (.send transaction.raw)).Ends sending spent sent ∧
        (result = .ok transaction.hash ∨
          lane.Refused transaction feeds packages block checking)) ∧
    (∀ leg feeds blobs trace elapsed failure,
      (lane.firstVerified leg feeds packages block blobs).Ends trace elapsed (.error failure) →
      ∀ blob ∈ blobs, ∀ transaction, SignedTransaction.decode blob = .ok transaction →
        transaction.target? = some lane.adapter.contract →
        lane.Refused transaction feeds packages block trace) := by
  refine ⟨?_, ?_, ?_⟩
  · intro trace elapsed win ends
    exact run_ok ends.observed
  · intro feeds blob transaction trace elapsed result decoded target ends
    rw [verify, decoded] at ends
    exact verifyTransaction_ends target ends
  · intro leg feeds blobs trace elapsed failure ends blob member transaction decoded target
    exact firstVerified_error ends.observed member decoded target

def sampleContract : Address := FixedBytes.ofNat 20 2

def blobOffering (price : Nat) : Bytes :=
  Draft.encode
    { chain := 1, nonce := 0, gasLimit := 21000, target := sampleContract, value := 0, data := [7]
      fees := .maxFee price 1 } ⟨1, 1, false⟩

def sampleBlob : Bytes := blobOffering 5

/-- What a contract should hold for the packages of `samplePackages`: the means of what they say. -/
def agreedValue (feed : FeedId) : Nat := if feed = "ETH" then 200000000 else 500000000

/-- A lane over a contract that simulates some values, and a node that asks for a gas price and has
a receipt for every transaction. -/
def laneOf (simulated : List FeedId → List Nat) (price : Nat) : AuctionLane :=
  { adapter :=
      { kind := .priceFeeds
        contract := sampleContract
        perform := fun
          | .simulate _ feeds _ => .done (.ok (simulated feeds))
          | call => Task.adapter call }
    rpc := ⟨fun
      | .gasPrice => .done (.ok price)
      | .receipt hash => .done (.ok (some ⟨hash, true, none, none, 0, 0⟩))
      | call => Task.rpc 0 call⟩
    chain := 1
    settings := ⟨1000, 1000, 1000, 10, true, false⟩ }

def sampleLane (price : Nat) : AuctionLane := laneOf (·.map agreedValue) price

/-- Each value stands where that of the other feed should. -/
def swappedLane (price : Nat) : AuctionLane :=
  laneOf (fun feeds => (feeds.map agreedValue).reverse) price

/-- An update of two feeds, and what two signers say of both. -/
def sampleCall : UpdateCall :=
  { sender := FixedBytes.ofNat 20 3
    target := sampleContract
    data := [7]
    feeds := ["ETH", "BTC"] }

def samplePackage (signer : Nat) (ether bitcoin : Float) : Package :=
  ⟨"MAIN", 2000, FixedBytes.ofNat 20 signer,
    [{ feed := "ETH", value := ether }, { feed := "BTC", value := bitcoin }], List.replicate 65 1⟩

def samplePackages : PackageSet :=
  let served := [samplePackage 1 1.0 4.0, samplePackage 2 3.0 6.0]
  FeedMap.ofList [("BTC", served), ("ETH", served)]

/-- A world in which the auction returns the transaction, and nothing is sent. -/
def sampleWorld : Host world Unit where
  answer question _ := (match question with
    | .rpc _ _ => ⟨0, .error (.text "refused")⟩
    | .packages .. => ⟨0, .ok FeedMap.empty⟩
    | .bids .. => ⟨0, .ok [sampleBlob]⟩
    | .adapter _ => ⟨0, .error (.text "refused")⟩
    | .submit _ => ⟨0, .error (.text "refused")⟩
    | .sign _ => ⟨0, .ok []⟩
    | .age _ => (0 : Nat)
    | .ping => ⟨0, .ok ()⟩
    | .fetch _ => ⟨0, .error (.text "refused")⟩
    | .clock => (0 : Nat)
    | .note _ => (), ())

theorem sampleBlob_decodes : ∃ transaction,
    SignedTransaction.decode sampleBlob = .ok transaction ∧
      transaction.target? = some sampleContract := by
  have readable : ((SignedTransaction.decode? sampleBlob).any fun transaction =>
      transaction.target? = some sampleContract) = true := by decide +kernel
  cases found : SignedTransaction.decode? sampleBlob with
  | none =>
    rw [found] at readable
    cases readable
  | some transaction =>
    rw [found] at readable
    exact ⟨transaction, by rw [SignedTransaction.decode, found], of_decide_eq_true readable⟩

/-- For a gas price of five the auction is won by the transaction that is verified. For six it is
refused, and also where the values are simulated in the other order. -/
theorem run_accepts_at_price_five :
    (∃ trace elapsed win,
      ((sampleLane 5).run sampleCall samplePackages 3000 1).Ends trace elapsed (.ok win) ∧
      ∃ legCall, (sampleLane 5).LegOf sampleCall samplePackages 3000 trace win.leg legCall ∧
        (sampleLane 5).Accepted samplePackages 1 trace win.leg legCall win.hash) ∧
    (∃ transaction trace elapsed result,
      SignedTransaction.decode sampleBlob = .ok transaction ∧
      transaction.target? = some sampleContract ∧
      ((sampleLane 5).verify sampleCall.feeds samplePackages 1 sampleBlob).Ends trace elapsed
        result ∧
      (result = .ok transaction.hash ∨ ∃ checking,
        (sampleLane 5).Refused transaction sampleCall.feeds samplePackages 1 checking)) ∧
    (∀ lane ∈ [sampleLane 6, swappedLane 5], ∃ transaction trace elapsed failure,
      SignedTransaction.decode sampleBlob = .ok transaction ∧
      (lane.firstVerified batchLeg sampleCall.feeds samplePackages 1 [sampleBlob]).Ends trace
        elapsed (.error failure) ∧
      lane.Refused transaction sampleCall.feeds samplePackages 1 trace) := by
  obtain ⟨transaction, decoded, target⟩ := sampleBlob_decodes
  refine ⟨?_, ?_, ?_⟩
  · have wins : (((sampleLane 5).run sampleCall samplePackages 3000 1).run sampleWorld
        ()).result.toBool = true := by decide +kernel
    have ends := run_ends sampleWorld ((sampleLane 5).run sampleCall samplePackages 3000 1) ()
    cases result : (((sampleLane 5).run sampleCall samplePackages 3000 1).run sampleWorld
        ()).result with
    | error failure =>
      rw [result] at wins
      cases wins
    | ok win =>
      rw [result] at ends
      exact ⟨_, _, win, ends,
        (run_accepts_exactly (sampleLane 5) sampleCall samplePackages 3000 1).1 _ _ win ends⟩
  · have ends := run_ends sampleWorld
      ((sampleLane 5).verify sampleCall.feeds samplePackages 1 sampleBlob) ()
    obtain ⟨_, checking, _, _, _, _, outcome⟩ :=
      (run_accepts_exactly (sampleLane 5) sampleCall samplePackages 3000 1).2.1 sampleCall.feeds
        sampleBlob transaction _ _ _ decoded target ends
    exact ⟨transaction, _, _, _, decoded, target, ends, outcome.imp id fun refused =>
      ⟨checking, refused⟩⟩
  · intro lane member
    let race := lane.firstVerified batchLeg sampleCall.feeds samplePackages 1 [sampleBlob]
    obtain ⟨contract, loses⟩ : lane.adapter.contract = sampleContract ∧
        (race.run sampleWorld ()).result.toBool = false := by
      simp only [List.mem_cons, List.not_mem_nil, or_false] at member
      rcases member with rfl | rfl
      · exact ⟨rfl, by decide +kernel⟩
      · exact ⟨rfl, by decide +kernel⟩
    have ends := run_ends sampleWorld race ()
    cases result : (race.run sampleWorld ()).result with
    | ok hash =>
      rw [result] at loses
      cases loses
    | error failure =>
      rw [result] at ends
      exact ⟨transaction, _, _, failure, decoded, ends,
        (run_accepts_exactly lane sampleCall samplePackages 3000 1).2.2 _ _ _ _ _ failure
          ends sampleBlob List.mem_cons_self transaction decoded (contract ▸ target)⟩

end PriceRelay.AuctionLane
