import PriceRelay.Delivery.Manager
import PriceRelay.Proofs.Activity.History
/-!
What a delivery asks for in the course of its attempts: failures of sending, and at most one success
behind them.
-/

namespace PriceRelay

namespace Delivery

/-- What a delivery asks for, with the answers. -/
abbrev Calls := List (Exchange deliveryParties)

def auctions (calls : Calls) : List (Except AuctionFailure AuctionWin) :=
  calls.filterMap fun
    | ⟨.auction _, result⟩ => some result
    | _ => none

def regenerations (calls : Calls) : List (Except Failure UpdateCall) :=
  calls.filterMap fun
    | ⟨.regenerate _ _, result⟩ => some result
    | _ => none

def submissions (calls : Calls) : List (Except Failure Dispatched) :=
  calls.filterMap fun
    | ⟨.submit _, result⟩ => some result
    | _ => none

@[simp] theorem auctions_append (before after : Calls) :
    auctions (before ++ after) = auctions before ++ auctions after := List.filterMap_append

@[simp] theorem regenerations_append (before after : Calls) :
    regenerations (before ++ after) = regenerations before ++ regenerations after :=
  List.filterMap_append

@[simp] theorem submissions_append (before after : Calls) :
    submissions (before ++ after) = submissions before ++ submissions after :=
  List.filterMap_append

end Delivery

namespace DeliveryManager

open Delivery

variable {manager : DeliveryManager} {request : DeliveryRequest} {afterAuction : Bool}
  {calls : Calls} {elapsed : Millis}

/-- A call is built anew in an attempt if it is old, and in the first attempt after an auction. -/
def Refreshes (manager : DeliveryManager) (afterAuction : Bool) (progress : Progress)
    (age : Millis) : Prop :=
  manager.isStale age = true ∨ (progress.attempts = 0 ∧ afterAuction = true)

/-- The ways to prepare an attempt: the call stays as it is, it is built anew, or that fails. -/
inductive Preparation (manager : DeliveryManager) (request : DeliveryRequest)
    (afterAuction : Bool) (progress : Progress) : Calls → Prepared → Prop where
  | asItIs {age : Millis}
      (spared : ∀ build, request.regenerate? = some build →
        ¬manager.Refreshes afterAuction progress age) :
      Preparation manager request afterAuction progress [⟨.age progress.call, age⟩]
        ⟨some progress.call, progress.regenerations⟩
  | rebuilt {age : Millis} {build : Nat → Attempt UpdateCall} {fresh : UpdateCall}
      (configured : request.regenerate? = some build)
      (refreshes : manager.Refreshes afterAuction progress age) :
      Preparation manager request afterAuction progress
        [⟨.age progress.call, age⟩, ⟨.regenerate build progress.regenerations, .ok fresh⟩]
        ⟨some fresh, progress.regenerations + 1⟩
  | unbuilt {age : Millis} {build : Nat → Attempt UpdateCall} {failure : Failure}
      (configured : request.regenerate? = some build)
      (refreshes : manager.Refreshes afterAuction progress age) :
      Preparation manager request afterAuction progress
        [⟨.age progress.call, age⟩, ⟨.regenerate build progress.regenerations, .error failure⟩]
        ⟨if manager.isStale age then none else some progress.call, progress.regenerations + 1⟩

theorem prepare_ends {progress : Progress} {prepared : Prepared}
    (ends : (manager.prepare request afterAuction progress).Ends calls elapsed prepared) :
    Preparation manager request afterAuction progress calls prepared := by
  obtain ⟨age, later, rfl, aged⟩ := Activity.ends_question_bind_iff.mp ends
  have refreshes_iff : (manager.isStale age || (progress.attempts = 0 && afterAuction)) = true ↔
      manager.Refreshes afterAuction progress age := by
    simp [Refreshes]
  dsimp only at aged
  split at aged
  · rename_i build configured
    split at aged
    · rename_i refresh
      obtain ⟨result, last, rfl, built⟩ := Activity.ends_question_bind_iff.mp aged
      cases result with
      | ok fresh =>
        obtain ⟨rfl, _, rfl⟩ := Activity.ends_done_iff.mp built
        exact .rebuilt configured (refreshes_iff.mp refresh)
      | error failure =>
        obtain ⟨rfl, _, rfl⟩ := Activity.ends_done_iff.mp built
        exact .unbuilt configured (refreshes_iff.mp refresh)
    · rename_i spared
      obtain ⟨rfl, _, rfl⟩ := Activity.ends_done_iff.mp aged
      exact .asItIs fun _ _ => mt refreshes_iff.mpr spared
  · rename_i unconfigured
    obtain ⟨rfl, _, rfl⟩ := Activity.ends_done_iff.mp aged
    exact .asItIs fun build configured => by rw [unconfigured] at configured; cases configured

def Progress.next (progress : Progress) (prepared : Prepared) (call : UpdateCall) : Progress :=
  ⟨progress.attempts + 1, prepared.regenerations, call⟩

/-- The ways of an attempt: it is lost in its preparation, or it sends a call, and the sending ends
the delivery or fails. After a loss or a failure come the attempts that are left. -/
inductive Attempted (manager : DeliveryManager) (request : DeliveryRequest) (afterAuction : Bool)
    (left : Nat) (progress : Progress) : Calls → Option Dispatched → Prop where
  | lost {preparing onward : Calls} {prepared : Prepared} {result? : Option Dispatched}
      {late : Millis}
      (prepares : Preparation manager request afterAuction progress preparing prepared)
      (none : prepared.call? = none)
      (rest : (manager.attempt request afterAuction left
        (progress.next prepared progress.call)).Ends onward late result?) :
      Attempted manager request afterAuction left progress (preparing ++ onward) result?
  | sent {preparing : Calls} {prepared : Prepared} {call : UpdateCall} {dispatched : Dispatched}
      (prepares : Preparation manager request afterAuction progress preparing prepared)
      (ready : prepared.call? = some call) :
      Attempted manager request afterAuction left progress
        (preparing ++ [⟨.submit call, .ok dispatched⟩]) (some dispatched)
  | refused {preparing onward : Calls} {prepared : Prepared} {call : UpdateCall} {failure : Failure}
      {result? : Option Dispatched} {late : Millis}
      (prepares : Preparation manager request afterAuction progress preparing prepared)
      (ready : prepared.call? = some call)
      (rest : (manager.attempt request afterAuction left (progress.next prepared call)).Ends onward
        late result?) :
      Attempted manager request afterAuction left progress
        (preparing ++ ⟨.submit call, .error failure⟩ :: onward) result?

theorem attempt_ends {left : Nat} {progress : Progress} {result? : Option Dispatched}
    (ends : (manager.attempt request afterAuction (left + 1) progress).Ends calls elapsed result?) :
    Attempted manager request afterAuction left progress calls result? := by
  obtain ⟨before, after, early, late, prepared, rfl, rfl, preparing, rest⟩ :=
    Activity.ends_bind_iff.mp ends
  have prepares := prepare_ends preparing
  cases ready : prepared.call? with
  | none =>
    simp only [ready] at rest
    exact .lost prepares ready rest
  | some call =>
    simp only [ready] at rest
    obtain ⟨result, tail, rfl, answered⟩ := Activity.ends_question_bind_iff.mp rest
    cases result with
    | ok dispatched =>
      obtain ⟨rfl, _, rfl⟩ := Activity.ends_done_iff.mp answered
      exact .sent prepares ready
    | error failure => exact .refused prepares ready answered

theorem Preparation.quiet {progress : Progress} {prepared : Prepared}
    (prepares : Preparation manager request afterAuction progress calls prepared) :
    auctions calls = [] ∧ submissions calls = [] := by
  cases prepares with
  | asItIs => exact ⟨rfl, rfl⟩
  | rebuilt => exact ⟨rfl, rfl⟩
  | unbuilt => exact ⟨rfl, rfl⟩

/-- The attempts that are left fail to send, all of them or all but the last. -/
theorem attempt_submissions {left : Nat} {progress : Progress} {result? : Option Dispatched}
    (ends : (manager.attempt request afterAuction left progress).Ends calls elapsed result?) :
    auctions calls = [] ∧ ∃ failures : List Failure,
      submissions calls = failures.map .error ++ result?.toList.map .ok ∧
      failures.length + result?.toList.length ≤ left := by
  induction left generalizing progress calls elapsed with
  | zero =>
    obtain ⟨rfl, rfl, rfl⟩ := Activity.ends_done_iff.mp ends
    exact ⟨rfl, [], rfl, Nat.le_refl 0⟩
  | succ left ih =>
    -- A lost preparation uses up an attempt without sending; the bound still holds.
    cases attempt_ends ends with
    | lost prepares _ rest =>
      obtain ⟨noAuction, nothingSent⟩ := prepares.quiet
      obtain ⟨quiet, failures, sent, bounded⟩ := ih rest
      rw [auctions_append, submissions_append, noAuction, nothingSent]
      exact ⟨quiet, failures, sent, by omega⟩
    | sent prepares ready =>
      obtain ⟨noAuction, nothingSent⟩ := prepares.quiet
      rw [auctions_append, submissions_append, noAuction, nothingSent]
      exact ⟨rfl, [], rfl, by simp⟩
    | refused prepares ready rest =>
      obtain ⟨noAuction, nothingSent⟩ := prepares.quiet
      obtain ⟨quiet, failures, sent, bounded⟩ := ih rest
      rw [auctions_append, submissions_append, noAuction, nothingSent]
      refine ⟨quiet, _ :: failures, congrArg (Except.error _ :: ·) sent, ?_⟩
      rw [List.length_cons]
      omega

end DeliveryManager

end PriceRelay
