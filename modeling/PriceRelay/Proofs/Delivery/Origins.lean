import PriceRelay.Proofs.Delivery.Attempts
/-!
Where the calls that a delivery sends come from: each is the one it was asked to deliver, or one that
it had built anew before.
-/

namespace PriceRelay

namespace Delivery

def Rebuilt (request : DeliveryRequest) (calls : Calls) (call : UpdateCall) : Prop :=
  ∃ build before, request.regenerate? = some build ∧ ⟨.regenerate build before, .ok call⟩ ∈ calls

variable {request : DeliveryRequest} {calls more : Calls} {call : UpdateCall}

theorem Rebuilt.mono (rebuilt : Rebuilt request calls call) (within : calls ⊆ more) :
    Rebuilt request more call := by
  obtain ⟨build, before, configured, member⟩ := rebuilt
  exact ⟨build, before, configured, within member⟩

theorem mem_submissions {reply : Except Failure Dispatched}
    (sent : ⟨.submit call, reply⟩ ∈ calls) : reply ∈ submissions calls :=
  List.mem_filterMap.mpr ⟨_, sent, rfl⟩

end Delivery

namespace DeliveryManager

open Delivery

variable {manager : DeliveryManager} {request : DeliveryRequest} {afterAuction : Bool}
  {calls : Calls} {elapsed : Millis}

theorem Preparation.origin {progress : Progress} {prepared : Prepared} {call : UpdateCall}
    (prepares : Preparation manager request afterAuction progress calls prepared)
    (ready : prepared.call? = some call) :
    call = progress.call ∨ Rebuilt request calls call := by
  cases prepares with
  | asItIs => exact .inl (Option.some.inj ready).symm
  | @rebuilt _ build fresh configured =>
    cases ready
    exact .inr ⟨build, progress.regenerations, configured, by simp⟩
  | unbuilt =>
    left
    dsimp only at ready
    split at ready
    · cases ready
    · exact (Option.some.inj ready).symm

theorem attempt_origin {left : Nat} {progress : Progress} {result? : Option Dispatched}
    {call : UpdateCall} {reply : Except Failure Dispatched}
    (ends : (manager.attempt request afterAuction left progress).Ends calls elapsed result?)
    (sent : ⟨.submit call, reply⟩ ∈ calls) :
    call = progress.call ∨ Rebuilt request calls call := by
  induction left generalizing progress calls elapsed with
  | zero =>
    obtain ⟨rfl, _⟩ := Activity.ends_done_iff.mp ends
    cases sent
  | succ left ih =>
    -- What is sent in the preparation is nothing; what is sent later has its origin later.
    have later {preparing onward : Calls} {prepared : Prepared}
        (prepares : Preparation manager request afterAuction progress preparing prepared)
        (sent : ⟨.submit call, reply⟩ ∈ preparing ++ onward) :
        ⟨.submit call, reply⟩ ∈ onward := by
      rcases List.mem_append.mp sent with early | later
      · have quiet := mem_submissions early
        rw [prepares.quiet.2] at quiet
        cases quiet
      · exact later
    cases attempt_ends ends with
    | lost prepares _ rest =>
      exact (ih rest (later prepares sent)).imp id fun rebuilt =>
        rebuilt.mono (List.subset_append_right _ _)
    | sent prepares ready =>
      cases List.mem_singleton.mp (later prepares sent)
      exact (prepares.origin ready).imp id fun rebuilt =>
        rebuilt.mono (List.subset_append_left _ _)
    | @refused preparing onward _ current failure _ _ prepares ready rest =>
      -- The call that was prepared is the one so far, or was built anew just now.
      have origin : current = progress.call ∨
          Rebuilt request (preparing ++ ⟨.submit current, .error failure⟩ :: onward) current :=
        (prepares.origin ready).imp id fun rebuilt =>
          rebuilt.mono (List.subset_append_left _ _)
      rcases List.mem_cons.mp (later prepares sent) with now | afterwards
      · cases now
        exact origin
      · rcases ih rest afterwards with same | rebuilt
        · cases same
          exact origin
        · exact .inr (rebuilt.mono (List.Subset.trans (List.subset_cons_self _ onward)
            (List.subset_append_right preparing _)))

theorem sendAfter_origin {auctionWon fallbackUsed : Bool} {outcome : DeliveryOutcome}
    {call : UpdateCall} {reply : Except Failure Dispatched}
    (ends : (manager.sendAfter request auctionWon fallbackUsed).Ends calls elapsed outcome)
    (sent : ⟨.submit call, reply⟩ ∈ calls) :
    call = request.call ∨ Rebuilt request calls call := by
  obtain ⟨sending, rest, _, _, result?, rfl, rfl, attempts, concluding⟩ :=
    Activity.ends_bind_iff.mp ends
  have nothing : rest = [] := by
    cases result? with
    | none => exact (Activity.ends_done_iff.mp concluding).1
    | some dispatched => exact (Activity.ends_done_iff.mp concluding).1
  rw [nothing, List.append_nil] at sent ⊢
  exact attempt_origin attempts sent

/-- What a delivery sends is what it was asked to deliver, or was built anew in its course. -/
theorem procedure_origin {outcome : DeliveryOutcome} {call : UpdateCall}
    {reply : Except Failure Dispatched}
    (ends : (manager.procedure request).Ends calls elapsed outcome)
    (sent : ⟨.submit call, reply⟩ ∈ calls) :
    call = request.call ∨ Rebuilt request calls call := by
  unfold procedure at ends
  split at ends
  · exact sendAfter_origin ends sent
  · obtain ⟨result, rest, rfl, onward⟩ := Activity.ends_question_bind_iff.mp ends
    have later : ⟨.submit call, reply⟩ ∈ rest := by
      rcases List.mem_cons.mp sent with first | later
      · cases first
      · exact later
    have within : rest ⊆ ⟨_, result⟩ :: rest := List.subset_cons_self _ rest
    cases result with
    | ok win => exact (sendAfter_origin onward later).imp id fun rebuilt => rebuilt.mono within
    | error failure =>
      dsimp only at onward
      split at onward
      · obtain ⟨rfl, _⟩ := Activity.ends_done_iff.mp onward
        cases later
      · exact (sendAfter_origin onward later).imp id fun rebuilt => rebuilt.mono within

section

variable {age : Millis} {build : Nat → Attempt UpdateCall} {call : UpdateCall}

theorem prepare_rebuilds {progress : Progress}
    (configured : request.regenerate? = some build) (old : manager.isStale age = true) :
    (manager.prepare request afterAuction progress).Ends
      [⟨.age progress.call, age⟩, ⟨.regenerate build progress.regenerations, .ok call⟩] 0
      ⟨some call, progress.regenerations + 1⟩ := by
  unfold prepare
  rw [configured]
  apply Activity.ends_question_bind_iff.mpr
  refine ⟨age, _, rfl, ?_⟩
  have refresh : (manager.isStale age || (progress.attempts = 0 && afterAuction)) = true := by
    rw [old, Bool.true_or]
  dsimp only
  rw [if_pos refresh]
  exact .ask _ (.done _)

/-- Where there is no auction, a delivery may consist of an old call that is built anew and sent. -/
theorem procedure_rebuilds {left : Nat} {dispatched : Dispatched}
    (direct : manager.auction? = none) (attempts : manager.settings.maxAttempts = left + 1)
    (configured : request.regenerate? = some build) (old : manager.isStale age = true) :
    (manager.procedure request).Ends
      [⟨.age request.call, age⟩, ⟨.regenerate build 0, .ok call⟩, ⟨.submit call, .ok dispatched⟩] 0
      (.delivered dispatched.hash false false) := by
  have sent : (manager.send request).Ends
      [⟨.age request.call, age⟩, ⟨.regenerate build 0, .ok call⟩, ⟨.submit call, .ok dispatched⟩] 0
      (some dispatched) := by
    unfold send
    rw [attempts]
    exact Activity.ends_bind_iff.mpr ⟨_, [⟨.submit call, .ok dispatched⟩], 0, 0, ⟨some call, 1⟩,
      rfl, rfl, prepare_rebuilds configured old, .ask _ (.done _)⟩
  unfold procedure
  rw [direct]
  exact Activity.ends_bind_iff.mpr
    ⟨_, [], 0, 0, some dispatched, (List.append_nil _).symm, rfl, sent, .done _⟩

end

end DeliveryManager

end PriceRelay
