import PriceRelay.Auction.Lane
import PriceRelay.Proofs.Auction.Agreement
import PriceRelay.Proofs.Chain.Inclusion
/-!
The checks of a transaction that an auction returned. A transaction that is accepted passed all of
them; one that is not was refused by one of them, or one of them came too late.
-/

namespace PriceRelay.AuctionLane

open Activity

/-- What was observed of a transaction that passed all checks. -/
structure Passed (lane : AuctionLane) (transaction : SignedTransaction) (feeds : List FeedId)
    (packages : PackageSet) (block : Nat) (trace : List (Exchange world)) : Prop where
  target : transaction.target? = some lane.adapter.contract
  /-- Simulated at the block, it writes one value per feed, near the mean of those served. -/
  prices : ∃ values : List Nat,
    (lane.adapter.perform (.simulate transaction.input feeds block)).Observed trace (.ok values) ∧
      Auction.AllAgree packages feeds values
  included : ∃ receipt : Receipt,
    (lane.rpc.request (.receipt transaction.hash)).Observed trace (.ok (some receipt)) ∧
      receipt.success = true
  gasPrice : lane.settings.verifyGasPrice = true → ∃ current : Nat,
    (lane.rpc.request .gasPrice).Observed trace (.ok current) ∧ current ≤ transaction.maxFee

/-- A check of a transaction was answered in the negative, or not within the limit. -/
inductive Refused (lane : AuctionLane) (transaction : SignedTransaction) (feeds : List FeedId)
    (packages : PackageSet) (block : Nat) (trace : List (Exchange world)) : Prop where
  | notSimulated (failure : Failure)
      (observed : (lane.adapter.perform (.simulate transaction.input feeds block)).Observed trace
        (.error failure))
  | disagrees (values : List Nat)
      (observed : (lane.adapter.perform (.simulate transaction.input feeds block)).Observed trace
        (.ok values))
      (differs : ¬Auction.AllAgree packages feeds values)
  | simulationLate
      (overran : (lane.adapter.perform (.simulate transaction.input feeds block)).Overran
        lane.settings.verification trace)
  | reverted (receipt : Receipt)
      (observed : (lane.rpc.request (.receipt transaction.hash)).Observed trace
        (.ok (some receipt)))
      (unsuccessful : receipt.success = false)
  | inclusionLate
      (overran : (Inclusion.poll lane.rpc transaction.hash lane.settings.pollInterval
        (Inclusion.lookupBound lane.settings.pollInterval lane.settings.verification)).Overran
          lane.settings.verification trace)
  /-- Looked up without pause, the receipt never came. -/
  | neverIncluded (pauseless : lane.settings.pollInterval = 0)
      (observed : (Inclusion.poll lane.rpc transaction.hash lane.settings.pollInterval
        (Inclusion.lookupBound lane.settings.pollInterval lane.settings.verification)).Observed
          trace none)
  | gasPriceUnknown (checked : lane.settings.verifyGasPrice = true) (failure : Failure)
      (observed : (lane.rpc.request .gasPrice).Observed trace (.error failure))
  | underpriced (checked : lane.settings.verifyGasPrice = true) (current : Nat)
      (observed : (lane.rpc.request .gasPrice).Observed trace (.ok current))
      (low : transaction.maxFee < current)
  | gasPriceLate (checked : lane.settings.verifyGasPrice = true)
      (overran : (lane.rpc.request .gasPrice).Overran lane.settings.verification trace)

section

variable {lane : AuctionLane} {transaction : SignedTransaction} {feeds : List FeedId}
  {packages : PackageSet} {block : Nat} {trace : List (Exchange world)}
  {failure : AuctionFailure}

theorem Refused.mono {part : List (Exchange world)}
    (refused : lane.Refused transaction feeds packages block part) (sub : part.Sublist trace) :
    lane.Refused transaction feeds packages block trace := by
  cases refused with
  | notSimulated failure observed => exact .notSimulated failure (observed.mono sub)
  | disagrees values observed differs => exact .disagrees values (observed.mono sub) differs
  | simulationLate overran => exact .simulationLate (overran.mono sub)
  | reverted receipt observed unsuccessful =>
    exact .reverted receipt (observed.mono sub) unsuccessful
  | inclusionLate overran => exact .inclusionLate (overran.mono sub)
  | neverIncluded pauseless observed => exact .neverIncluded pauseless (observed.mono sub)
  | gasPriceUnknown checked failure observed =>
    exact .gasPriceUnknown checked failure (observed.mono sub)
  | underpriced checked current observed low =>
    exact .underpriced checked current (observed.mono sub) low
  | gasPriceLate checked overran => exact .gasPriceLate checked (overran.mono sub)

theorem checkPrices_ok
    (observed : (lane.checkPrices transaction feeds packages block).Observed trace (.ok ())) :
    ∃ values : List Nat,
      (lane.adapter.perform (.simulate transaction.input feeds block)).Observed trace (.ok values) ∧
        Auction.AllAgree packages feeds values := by
  obtain ⟨values, simulated, checked⟩ := observed_andThen_ok observed
  exact ⟨values, observed_mapError_ok simulated,
    Auction.checkValues_ok_iff.mp (observed_done_iff.mp checked).symm⟩

theorem checkPrices_error
    (observed : (lane.checkPrices transaction feeds packages block).Observed trace
      (.error failure)) :
    lane.Refused transaction feeds packages block trace := by
  rcases observed_andThen_error observed with failed | ⟨values, simulated, checked⟩
  · obtain ⟨original, simulation⟩ := observed_mapError_error failed
    exact .notSimulated original simulation
  · refine .disagrees values (observed_mapError_ok simulated) ?_
    intro agree
    have passes : Auction.checkValues transaction.hash packages feeds values = .ok () :=
      Auction.checkValues_ok_iff.mpr agree
    have fails := observed_done_iff.mp checked
    rw [passes] at fails
    cases fails

theorem checkPrices_overran
    (overran : (lane.checkPrices transaction feeds packages block).Overran
      lane.settings.verification trace) :
    lane.Refused transaction feeds packages block trace := by
  have simulating := overran_andThen (fun (values : List Nat) => ⟨_, rfl⟩) overran
  exact .simulationLate (overran_bind (fun result => ⟨_, rfl⟩) simulating)

theorem checkIncluded_ok
    (observed : (lane.checkIncluded transaction.hash).Observed trace (.ok ())) :
    ∃ receipt : Receipt,
      (lane.rpc.request (.receipt transaction.hash)).Observed trace (.ok (some receipt)) ∧
        receipt.success = true := by
  obtain ⟨waited, waiting, last⟩ := observed_bind observed
  cases waited with
  | error failure => cases observed_done_iff.mp last
  | ok receipt =>
    refine ⟨receipt, Inclusion.observed_wait_ok waiting, ?_⟩
    have result := observed_done_iff.mp last
    cases success : receipt.success with
    | true => rfl
    | false =>
      rw [success] at result
      cases result

theorem checkIncluded_error
    (observed : (lane.checkIncluded transaction.hash).Observed trace (.error failure)) :
    lane.Refused transaction feeds packages block trace := by
  obtain ⟨waited, waiting, last⟩ := observed_bind observed
  cases waited with
  | error failure =>
    rcases Inclusion.observed_wait_error waiting with late | ⟨pauseless, never⟩
    · exact .inclusionLate late
    · exact .neverIncluded pauseless never
  | ok receipt =>
    refine .reverted receipt (Inclusion.observed_wait_ok waiting) ?_
    have result := observed_done_iff.mp last
    cases success : receipt.success with
    | false => rfl
    | true =>
      rw [if_pos success] at result
      cases result

theorem not_overran_checkIncluded :
    ¬(lane.checkIncluded transaction.hash).Overran lane.settings.verification trace := by
  intro overran
  refine Inclusion.not_overran_wait (overran_bind ?_ overran)
  intro waited
  cases waited with
  | error failure => exact ⟨_, rfl⟩
  | ok receipt => exact ⟨_, rfl⟩

theorem checkGasPrice_ok (checked : lane.settings.verifyGasPrice = true)
    (observed : (lane.checkGasPrice transaction).Observed trace (.ok ())) :
    ∃ current : Nat, (lane.rpc.request .gasPrice).Observed trace (.ok current) ∧
      current ≤ transaction.maxFee := by
  rw [checkGasPrice, if_pos checked] at observed
  obtain ⟨current, asked, compared⟩ := observed_andThen_ok observed
  refine ⟨current, observed_mapError_ok asked, ?_⟩
  have result := observed_done_iff.mp compared
  apply Nat.le_of_not_lt
  intro low
  rw [if_pos low] at result
  cases result

theorem checkGasPrice_error
    (observed : (lane.checkGasPrice transaction).Observed trace (.error failure)) :
    lane.Refused transaction feeds packages block trace := by
  unfold checkGasPrice at observed
  split at observed
  case isFalse => cases observed_done_iff.mp observed
  case isTrue checked =>
    rcases observed_andThen_error observed with failed | ⟨current, asked, compared⟩
    · obtain ⟨original, unknown⟩ := observed_mapError_error failed
      exact .gasPriceUnknown checked original unknown
    · refine .underpriced checked current (observed_mapError_ok asked) ?_
      have result := observed_done_iff.mp compared
      apply Nat.lt_of_not_le
      intro enough
      rw [if_neg (Nat.not_lt_of_le enough)] at result
      cases result

theorem checkGasPrice_overran
    (overran : (lane.checkGasPrice transaction).Overran lane.settings.verification trace) :
    lane.Refused transaction feeds packages block trace := by
  unfold checkGasPrice at overran
  split at overran
  case isFalse =>
    obtain ⟨part, _, overruns⟩ := overran
    exact absurd overruns not_overruns_done
  case isTrue checked =>
    have asking := overran_andThen (fun (current : Nat) => ⟨_, rfl⟩) overran
    exact .gasPriceLate checked (overran_bind (fun result => ⟨_, rfl⟩) asking)

theorem checks_ok (target : transaction.target? = some lane.adapter.contract)
    (observed : (lane.checks transaction feeds packages block).Observed trace (.ok ())) :
    lane.Passed transaction feeds packages block trace := by
  obtain ⟨⟨_, _, _⟩, together, _⟩ := observed_andThen_ok observed
  obtain ⟨prices, others⟩ := observed_tryBoth_ok together
  obtain ⟨included, gasPrice⟩ := observed_tryBoth_ok others
  exact ⟨target, checkPrices_ok prices, checkIncluded_ok included,
    fun checked => checkGasPrice_ok checked gasPrice⟩

/-- Where the checks fail, one of them refuses the transaction. -/
theorem checks_error
    (observed : (lane.checks transaction feeds packages block).Observed trace (.error failure)) :
    lane.Refused transaction feeds packages block trace := by
  rcases observed_andThen_error observed with failed | ⟨results, _, last⟩
  · rcases observed_tryBoth_error failed with prices | others
    · exact checkPrices_error prices
    · rcases observed_tryBoth_error others with included | gasPrice
      · exact checkIncluded_error included
      · exact checkGasPrice_error gasPrice
  · cases observed_done_iff.mp last

/-- Where the checks overrun the limit, one of them does. -/
theorem checks_overran
    (overran : (lane.checks transaction feeds packages block).Overran
      lane.settings.verification trace) :
    lane.Refused transaction feeds packages block trace := by
  have together := overran_andThen (fun results => ⟨_, rfl⟩) overran
  rcases overran_tryBoth together with prices | others
  · exact checkPrices_overran prices
  · rcases overran_tryBoth others with included | gasPrice
    · exact absurd included not_overran_checkIncluded
    · exact checkGasPrice_overran gasPrice

/-- A blob is verified only if it holds a transaction that passed all checks. -/
theorem verify_ok {blob : Bytes} {hash : Hash}
    (observed : (lane.verify feeds packages block blob).Observed trace (.ok hash)) :
    ∃ transaction, SignedTransaction.decode blob = .ok transaction ∧ transaction.hash = hash ∧
      lane.Passed transaction feeds packages block trace := by
  unfold verify at observed
  split at observed
  case h_1 => cases observed_done_iff.mp observed
  case h_2 transaction decoded =>
    unfold verifyTransaction at observed
    split at observed
    case isFalse => cases observed_done_iff.mp observed
    case isTrue target =>
      obtain ⟨sent, _, checking⟩ := observed_bind observed
      obtain ⟨checked?, within_, last⟩ := observed_bind checking
      match checked? with
      | none => cases observed_done_iff.mp last
      | some (.error failure) => cases observed_done_iff.mp last
      | some (.ok ()) =>
        obtain rfl := Except.ok.inj (observed_done_iff.mp last)
        exact ⟨transaction, decoded, rfl, checks_ok target (observed_of_within_some within_)⟩

/-- A transaction with the right target is sent again and then, whatever came of that, verified or
refused. -/
theorem verifyTransaction_ends {elapsed : Millis} {result : Except AuctionFailure Hash}
    (target : transaction.target? = some lane.adapter.contract)
    (ends : (lane.verifyTransaction transaction feeds packages block).Ends trace elapsed result) :
    ∃ sending checking spent sent, trace = sending ++ checking ∧
      (lane.rpc.request (.send transaction.raw)).Ends sending spent sent ∧
      (result = .ok transaction.hash ∨
        lane.Refused transaction feeds packages block checking) := by
  rw [verifyTransaction, if_pos target] at ends
  obtain ⟨sending, checking, spent, _, sent, rfl, rfl, sendEnds, rest⟩ := ends_bind_iff.mp ends
  refine ⟨sending, checking, spent, sent, rfl, sendEnds, ?_⟩
  obtain ⟨checked?, within_, last⟩ := observed_bind rest.observed
  match checked? with
  | none => exact .inr (checks_overran (overran_of_within_none within_))
  | some (.error failure) => exact .inr (checks_error (observed_of_within_some within_))
  | some (.ok ()) => exact .inl (observed_done_iff.mp last)

theorem verify_error {blob : Bytes} (decoded : SignedTransaction.decode blob = .ok transaction)
    (target : transaction.target? = some lane.adapter.contract)
    (observed : (lane.verify feeds packages block blob).Observed trace (.error failure)) :
    lane.Refused transaction feeds packages block trace := by
  obtain ⟨part, elapsed, sub, ends⟩ := observed
  rw [verify, decoded] at ends
  obtain ⟨sending, checking, _, _, rfl, _, outcome⟩ := verifyTransaction_ends target ends
  rcases outcome with verified | refused
  · cases verified
  · exact refused.mono ((List.sublist_append_right sending checking).trans sub)

end

end PriceRelay.AuctionLane
