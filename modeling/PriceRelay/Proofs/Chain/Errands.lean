import PriceRelay.Chain.Sender
import PriceRelay.Proofs.Activity.History
/-!
A sender on its errands: it submits updates, tells prices and reads its count, one after another,
and keeps what it learns for the next.
-/

namespace PriceRelay

/-- What a sender is asked for. -/
inductive Errand where
  | submit (call : UpdateCall)
  | price
  | sync

/-- What comes of an errand. -/
inductive ErrandResult where
  | submitted (result : Except Failure Dispatched)
  | priced (fees : Fees)
  | synced

def ErrandResult.dispatched? : ErrandResult → Option Dispatched
  | .submitted (.ok dispatched) => some dispatched
  | _ => none

def ErrandResult.fees? : ErrandResult → Option Fees
  | .submitted (.ok dispatched) => some dispatched.fees
  | .priced fees => some fees
  | _ => none

namespace Sender

/-- One errand. -/
def perform (rpc : Rpc) (sender : Sender) : Errand → Task (ErrandResult × Sender)
  | .submit call =>
    (sender.submit rpc call).bind fun (result, sender) => .done (.submitted result, sender)
  | .price => (sender.fees rpc).bind fun (fees, sender) => .done (.priced fees, sender)
  | .sync => (sender.sync rpc).bind fun sender => .done (.synced, sender)

/-- Some errands, one after another. -/
def performAll (rpc : Rpc) : List Errand → Sender → Task (List ErrandResult × Sender)
  | [], sender => .done ([], sender)
  | errand :: rest, sender =>
    (sender.perform rpc errand).bind fun (result, sender) =>
    (performAll rpc rest sender).bind fun (results, sender) => .done (result :: results, sender)

section

variable {rpc : Rpc} {sender sender' : Sender} {trace : List (Exchange world)} {elapsed : Millis}

/-- Fees are those of the strategy times the factor; the strategy is all that changes. -/
theorem fees_ends {fees : Fees} (ends : (sender.fees rpc).Ends trace elapsed (fees, sender')) :
    ∃ base strategy, (sender.strategy.fetch rpc).Ends trace elapsed (base, strategy) ∧
      fees = base.scaled sender.multiplier ∧ sender' = { sender with strategy } := by
  obtain ⟨⟨base, strategy⟩, fetched, same⟩ := Activity.ends_bind_done ends
  cases same
  exact ⟨base, strategy, fetched, rfl, rfl⟩

/-- The count is what the chain answers, and stays without an answer. -/
theorem sync_ends (ends : (sender.sync rpc).Ends trace elapsed sender') :
    ∃ answer : Except Failure Nat,
      (rpc.request (.transactionCount sender.address)).Ends trace elapsed answer ∧
      sender' = match answer with
        | .ok count => { sender with nonce := ⟨UInt64.ofNat count⟩ }
        | .error _ => sender := by
  obtain ⟨before, after, early, late, answer, rfl, rfl, asked, rest⟩ :=
    Activity.ends_bind_iff.mp ends
  refine ⟨answer, ?_⟩
  cases answer with
  | ok count =>
    obtain ⟨rfl, rfl, rfl⟩ := Activity.ends_done_iff.mp rest
    exact ⟨by simpa using asked, rfl⟩
  | error failure =>
    obtain ⟨rfl, rfl, rfl⟩ := Activity.ends_done_iff.mp rest
    exact ⟨by simpa using asked, rfl⟩

def advanced (sender : Sender) : Sender := { sender with nonce := ⟨sender.nonce.current + 1⟩ }

/-- The ways of a submission: it is taken, or it is refused and the count is read again. Either way
its nonce was the one at hand. -/
inductive Submission (rpc : Rpc) (sender : Sender) (call : UpdateCall) :
    List (Exchange world) → Except Failure Dispatched → Sender → Prop where
  | taken {pricing sending : List (Exchange world)} {early late : Millis} {fees : Fees}
      {priced : Sender} {hash : Hash}
      (prices : (sender.advanced.fees rpc).Ends pricing early (fees, priced))
      (sends : (rpc.request
        (.send ((priced.draft sender.nonce.current.toNat fees call).sign priced.key))).Ends
          sending late (.ok hash)) :
      Submission rpc sender call (pricing ++ sending)
        (.ok ⟨hash, sender.nonce.current.toNat, priced.gasLimit, fees⟩) priced
  | refused {pricing sending counting : List (Exchange world)} {early late last : Millis}
      {fees : Fees} {priced synced : Sender} {failure : Failure}
      (prices : (sender.advanced.fees rpc).Ends pricing early (fees, priced))
      (sends : (rpc.request
        (.send ((priced.draft sender.nonce.current.toNat fees call).sign priced.key))).Ends
          sending late (.error failure))
      (counts : (priced.sync rpc).Ends counting last synced) :
      Submission rpc sender call (pricing ++ (sending ++ counting)) (.error failure) synced

theorem submit_ends {call : UpdateCall} {result : Except Failure Dispatched}
    (ends : (sender.submit rpc call).Ends trace elapsed (result, sender')) :
    Submission rpc sender call trace result sender' := by
  obtain ⟨pricing, after, early, late, ⟨fees, priced⟩, rfl, rfl, prices, rest⟩ :=
    Activity.ends_bind_iff.mp ends
  obtain ⟨sending, counting, middle, last, answer, rfl, rfl, sends, rest⟩ :=
    Activity.ends_bind_iff.mp rest
  cases answer with
  | ok hash =>
    obtain ⟨rfl, rfl, same⟩ := Activity.ends_done_iff.mp rest
    cases same
    rw [List.append_nil]
    exact .taken prices sends
  | error failure =>
    obtain ⟨synced, counts, same⟩ := Activity.ends_bind_done rest
    cases same
    exact .refused prices sends counts

/-- The ways of an errand. -/
inductive Performed (rpc : Rpc) (sender : Sender) :
    List (Exchange world) → ErrandResult → Sender → Prop where
  | submitted {call : UpdateCall} {trace : List (Exchange world)}
      {result : Except Failure Dispatched} {after : Sender}
      (submission : Submission rpc sender call trace result after) :
      Performed rpc sender trace (.submitted result) after
  | priced {trace : List (Exchange world)} {elapsed : Millis} {fees : Fees} {after : Sender}
      (prices : (sender.fees rpc).Ends trace elapsed (fees, after)) :
      Performed rpc sender trace (.priced fees) after
  | synced {trace : List (Exchange world)} {elapsed : Millis} {after : Sender}
      (counts : (sender.sync rpc).Ends trace elapsed after) :
      Performed rpc sender trace .synced after

theorem perform_ends {errand : Errand} {result : ErrandResult}
    (ends : (sender.perform rpc errand).Ends trace elapsed (result, sender')) :
    Performed rpc sender trace result sender' := by
  cases errand with
  | submit call =>
    obtain ⟨⟨outcome, next⟩, own, same⟩ := Activity.ends_bind_done ends
    cases same
    exact .submitted (submit_ends own)
  | price =>
    obtain ⟨⟨fees, next⟩, own, same⟩ := Activity.ends_bind_done ends
    cases same
    exact .priced own
  | sync =>
    obtain ⟨next, own, same⟩ := Activity.ends_bind_done ends
    cases same
    exact .synced own

theorem performAll_cons_ends {errand : Errand} {rest : List Errand} {results : List ErrandResult}
    (ends : (performAll rpc (errand :: rest) sender).Ends trace elapsed (results, sender')) :
    ∃ before after late result others between, trace = before ++ after ∧
      results = result :: others ∧ Performed rpc sender before result between ∧
      (performAll rpc rest between).Ends after late (others, sender') := by
  obtain ⟨before, after, early, late, ⟨result, between⟩, rfl, rfl, own, onward⟩ :=
    Activity.ends_bind_iff.mp ends
  obtain ⟨⟨others, final⟩, later, same⟩ := Activity.ends_bind_done onward
  cases same
  exact ⟨before, after, late, result, others, between, rfl, rfl, perform_ends own, later⟩

end

end Sender

end PriceRelay
