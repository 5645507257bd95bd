import PriceRelay.Proofs.Delivery.Attempts
/-!
What the calls of a delivery say about its outcome. The auction decides whether anything is sent, and
what is sent decides the rest.
-/

namespace PriceRelay

namespace Delivery

variable {calls : Calls}

/-- Sending failed until it succeeded, if it did, within so many attempts. -/
structure Sent (limit : Nat) (calls : Calls) (sent? : Option Dispatched) : Prop where
  shape : ∃ failures : List Failure,
    submissions calls = failures.map .error ++ sent?.toList.map .ok
  bounded : (submissions calls).length ≤ limit

theorem Sent.ok_mem_iff {limit : Nat} {sent? : Option Dispatched} (sent : Sent limit calls sent?)
    (dispatched : Dispatched) :
    .ok dispatched ∈ submissions calls ↔ sent? = some dispatched := by
  obtain ⟨failures, same⟩ := sent.shape
  rw [same]
  cases sent? with
  | none => simp
  | some last => simp [eq_comm]

def won : Option (Except AuctionFailure AuctionWin) → Bool
  | some (.ok _) => true
  | _ => false

def lost : Option (Except AuctionFailure AuctionWin) → Bool
  | some (.error _) => true
  | _ => false

theorem won_iff (result? : Option (Except AuctionFailure AuctionWin)) :
    won result? = true ↔ ∃ win, result?.toList = [.ok win] := by
  cases result? with
  | none => simp [won]
  | some result =>
    cases result with
    | error failure => simp [won]
    | ok win => simp [won]

theorem lost_iff (result? : Option (Except AuctionFailure AuctionWin)) :
    lost result? = true ↔ ∃ failure, result?.toList = [.error failure] := by
  cases result? with
  | none => simp [lost]
  | some result =>
    cases result with
    | error failure => simp [lost]
    | ok win => simp [lost]

theorem not_won_and_lost (result? : Option (Except AuctionFailure AuctionWin)) :
    ¬(won result? = true ∧ lost result? = true) := by
  rintro ⟨first, second⟩
  obtain ⟨win, isWon⟩ := (won_iff result?).mp first
  obtain ⟨failure, isLost⟩ := (lost_iff result?).mp second
  rw [isWon] at isLost
  injection isLost with same
  cases same

end Delivery

namespace DeliveryManager

open Delivery

variable {manager : DeliveryManager} {request : DeliveryRequest} {calls : Calls}
  {elapsed : Millis} {outcome : DeliveryOutcome}

/-- The auction was lost, and the update can wait. -/
def Omits (manager : DeliveryManager) (request : DeliveryRequest)
    (results : List (Except AuctionFailure AuctionWin)) : Prop :=
  ∃ lane failure, manager.auction? = some lane ∧ results = [.error failure] ∧
    request.canOmit = true ∧ lane.settings.omitOptional = true

/-- The outcome of sending, after an auction if there was one. -/
def concluded (manager : DeliveryManager) (result? : Option (Except AuctionFailure AuctionWin)) :
    Option Dispatched → DeliveryOutcome
  | some dispatched => .delivered dispatched.hash (won result?) (lost result?)
  | none => .failed (failReason manager.settings.maxAttempts)

/-- The two courses of a delivery. -/
inductive Course (manager : DeliveryManager) (request : DeliveryRequest) (calls : Calls) :
    DeliveryOutcome → Prop where
  | omitted (reason : String) (omits : manager.Omits request (auctions calls))
      (quiet : submissions calls = [] ∧ regenerations calls = []) :
      Course manager request calls (.skipped reason)
  | sent {result? : Option (Except AuctionFailure AuctionWin)} {sent? : Option Dispatched}
      (offered : auctions calls = result?.toList)
      (entered : result?.isSome = manager.auction?.isSome)
      (kept : ¬manager.Omits request result?.toList)
      (sent : Sent manager.settings.maxAttempts calls sent?) :
      Course manager request calls (manager.concluded result? sent?)

/-- Where the update is sent, the delivery takes the second course. -/
theorem sendAfter_course (opening : Calls)
    (result? : Option (Except AuctionFailure AuctionWin))
    (offered : auctions opening = result?.toList) (unsent : submissions opening = [])
    (entered : result?.isSome = manager.auction?.isSome)
    (kept : ¬manager.Omits request result?.toList)
    (ends : (manager.sendAfter request (won result?) (lost result?)).Ends calls elapsed outcome) :
    manager.Course request (opening ++ calls) outcome := by
  obtain ⟨before, after, early, late, sent?, rfl, rfl, sending, rest⟩ :=
    Activity.ends_bind_iff.mp ends
  obtain ⟨quiet, failures, same, bounded⟩ := attempt_submissions sending
  have closed : after = [] ∧ outcome = manager.concluded result? sent? := by
    cases sent? with
    | none =>
      obtain ⟨nothing, _, result⟩ := Activity.ends_done_iff.mp rest
      exact ⟨nothing, result⟩
    | some dispatched =>
      obtain ⟨nothing, _, result⟩ := Activity.ends_done_iff.mp rest
      exact ⟨nothing, result⟩
  obtain ⟨rfl, rfl⟩ := closed
  apply Course.sent _ entered kept
  · constructor
    · exact ⟨failures, by simp [unsent, same]⟩
    · simpa [unsent, same] using bounded
  · simp [offered, quiet]

theorem procedure_course (ends : (manager.procedure request).Ends calls elapsed outcome) :
    manager.Course request calls outcome := by
  unfold procedure at ends
  split at ends
  case h_1 noLane =>
    have kept : ¬manager.Omits request [] := by
      rintro ⟨lane, failure, _, lost, _⟩
      cases lost
    exact sendAfter_course [] none rfl rfl (by rw [noLane]; rfl) kept ends
  case h_2 lane isLane =>
    obtain ⟨result, rest, rfl, answered⟩ := Activity.ends_question_bind_iff.mp ends
    have entered : (some result).isSome = manager.auction?.isSome := by rw [isLane]; rfl
    cases result with
    | ok win =>
      have kept : ¬manager.Omits request [.ok win] := by
        rintro ⟨_, failure, _, lost, _⟩
        injection lost with same
        cases same
      exact sendAfter_course [⟨.auction lane, .ok win⟩] (some (.ok win)) rfl rfl entered kept answered
    | error failure =>
      dsimp only at answered
      split at answered
      case isTrue optional =>
        obtain ⟨rfl, _, rfl⟩ := Activity.ends_done_iff.mp answered
        rw [Bool.and_eq_true] at optional
        exact .omitted _ ⟨lane, failure, isLane, rfl, optional⟩ ⟨rfl, rfl⟩
      case isFalse needed =>
        have kept : ¬manager.Omits request [.error failure] := by
          rintro ⟨other, _, isOther, _, optional⟩
          rw [isLane] at isOther
          cases isOther
          exact needed ((Bool.and_eq_true ..).mpr optional)
        exact sendAfter_course [⟨.auction lane, .error failure⟩] (some (.error failure)) rfl rfl
          entered kept answered

/-- What holds of a delivery: the calls it makes, and its outcome. -/
structure Settled (manager : DeliveryManager) (request : DeliveryRequest) (calls : Calls)
    (outcome : DeliveryOutcome) : Prop where
  bounded : (submissions calls).length ≤ manager.settings.maxAttempts
  /-- Only the last submission can succeed. -/
  lastOnly : ∃ (failures : List Failure) (sent? : Option Dispatched),
    submissions calls = failures.map .error ++ sent?.toList.map .ok
  /-- There is an auction exactly where there is a lane, and one only. -/
  offered : (auctions calls).length = manager.auction?.toList.length
  delivered : ∀ hash, outcome.hash? = some hash ↔
    ∃ dispatched, .ok dispatched ∈ submissions calls ∧ dispatched.hash = hash
  watched : ∀ dispatched, .ok dispatched ∈ submissions calls →
    manager.watch outcome = Inclusion.watch manager.rpc dispatched.hash
      manager.settings.pollInterval manager.settings.receiptTimeout
  unwatched : (∀ dispatched, .ok dispatched ∉ submissions calls) → manager.watch outcome = .done ()
  skipped : (∃ reason, outcome = .skipped reason) ↔ manager.Omits request (auctions calls)
  untouched : manager.Omits request (auctions calls) →
    submissions calls = [] ∧ regenerations calls = []
  failed : (∃ reason, outcome = .failed reason) ↔
    (∀ dispatched, .ok dispatched ∉ submissions calls) ∧ ¬manager.Omits request (auctions calls)
  flags : ∀ hash auctionWon fallbackUsed, outcome = .delivered hash auctionWon fallbackUsed →
    (auctionWon = true ↔ ∃ win, auctions calls = [.ok win]) ∧
      (fallbackUsed = true ↔ ∃ failure, auctions calls = [.error failure]) ∧
      ¬(auctionWon = true ∧ fallbackUsed = true)

theorem omitted_settled {reason : String} (omits : manager.Omits request (auctions calls))
    (quiet : submissions calls = [] ∧ regenerations calls = []) :
    manager.Settled request calls (.skipped reason) := by
  have nothing : submissions calls = [] := quiet.1
  have single : (auctions calls).length = manager.auction?.toList.length := by
    obtain ⟨lane, failure, isLane, lost, _⟩ := omits
    rw [lost, isLane]
    rfl
  constructor
  case bounded => simp [nothing]
  case lastOnly => exact ⟨[], none, nothing⟩
  case offered => exact single
  case delivered => simp [nothing, DeliveryOutcome.hash?]
  case watched => simp [nothing]
  case unwatched =>
    intro _
    rfl
  case skipped => simp [omits]
  case untouched =>
    intro _
    exact quiet
  case failed => simp [omits]
  case flags =>
    intro hash auctionWon fallbackUsed same
    cases same

theorem sent_settled {result? : Option (Except AuctionFailure AuctionWin)}
    {sent? : Option Dispatched} (offered : auctions calls = result?.toList)
    (entered : result?.isSome = manager.auction?.isSome)
    (kept : ¬manager.Omits request result?.toList)
    (sent : Sent manager.settings.maxAttempts calls sent?) :
    manager.Settled request calls (manager.concluded result? sent?) := by
  have single : (auctions calls).length = manager.auction?.toList.length := by
    rw [offered]
    cases result? <;> cases lane : manager.auction? <;> simp_all
  obtain ⟨failures, same⟩ := sent.shape
  constructor
  case bounded => exact sent.bounded
  case lastOnly => exact ⟨failures, sent?, same⟩
  case offered => exact single
  case delivered =>
    intro hash
    simp only [sent.ok_mem_iff]
    cases sent? <;> simp [concluded, DeliveryOutcome.hash?]
  case watched =>
    intro dispatched member
    obtain rfl := (sent.ok_mem_iff dispatched).mp member
    rfl
  case unwatched =>
    intro failing
    cases sent? with
    | none => rfl
    | some dispatched => exact absurd ((sent.ok_mem_iff dispatched).mpr rfl) (failing dispatched)
  case skipped =>
    rw [offered]
    cases sent? <;> simp [concluded, kept]
  case untouched =>
    rw [offered]
    intro omits
    exact absurd omits kept
  case failed =>
    simp only [sent.ok_mem_iff, offered]
    cases sent? <;> simp [concluded, kept]
  case flags =>
    intro hash auctionWon fallbackUsed result
    rw [offered]
    cases sent? with
    | none => cases result
    | some dispatched =>
      cases result
      exact ⟨won_iff result?, lost_iff result?, not_won_and_lost result?⟩

/-- What a delivery asks for in a world, with the answers that it gets. -/
def callsIn {State : Type} (manager : DeliveryManager) (request : DeliveryRequest)
    (host : Host world State) (state : State) : Calls :=
  (manager.procedure request).history (host.serving (manager.serve request)) state

/-- Both courses are settled. -/
theorem Course.settled (course : manager.Course request calls outcome) :
    manager.Settled request calls outcome := by
  cases course with
  | omitted reason omits quiet => exact omitted_settled omits quiet
  | sent offered entered kept sent => exact sent_settled offered entered kept sent

/-- However its calls are answered, a delivery sends at most once with success, skips exactly what
it may omit, and says in its outcome what happened. -/
theorem deliver_settled {State : Type} (manager : DeliveryManager) (request : DeliveryRequest)
    (host : Host world State) (state : State) :
    manager.Settled request (manager.callsIn request host state)
      ((manager.deliver request).run host state).result := by
  have carried := Activity.run_carryOut host (manager.serve request) (manager.procedure request)
    state
  rw [deliver, carried.1]
  exact (procedure_course (Activity.run_ends ..)).settled

end DeliveryManager

end PriceRelay
