import PriceRelay.Proofs.Auction.Acceptance
import PriceRelay.Proofs.Delivery.Outcome
/-!
The turns of a delivery whose call can be built anew. A turn starts by looking at the age of the call
at hand; then the call may be built anew, and then a call may be sent, each once at most. What is
sent was built in this turn, or was not too old at its start.
-/

namespace PriceRelay

namespace Delivery

/-- One attempt, in the order of its parts. -/
structure Turn where
  /-- The call at hand. -/
  call : UpdateCall
  /-- How old it is. -/
  age : Millis
  /-- How often it was tried to build the call anew before. -/
  before : Nat
  /-- What came of building it anew, if it was tried. -/
  building? : Option (Except Failure UpdateCall)
  /-- What was sent, if anything was, and what came of it. -/
  sending? : Option (UpdateCall × Except Failure Dispatched)

namespace Turn

def calls (build : Nat → Attempt UpdateCall) (turn : Turn) : Calls :=
  ⟨.age turn.call, turn.age⟩ ::
    (turn.building?.toList.map fun result => ⟨.regenerate build turn.before, result⟩) ++
    turn.sending?.toList.map fun sent => ⟨.submit sent.1, sent.2⟩

/-- The call at hand after a turn: the one that was built, or the one from before. -/
def leaves (turn : Turn) : UpdateCall := (turn.building?.bind Except.toOption).getD turn.call

/-- What holds of a turn. The budget bounds the age of calls that are sent as they are. -/
structure Disciplined (budget : Millis) (afterAuction : Bool) (turn : Turn) : Prop where
  /-- What is sent was built in this turn, or was at hand and not too old. -/
  sends : ∀ call reply, turn.sending? = some (call, reply) →
    turn.building? = some (.ok call) ∨ call = turn.call ∧ turn.age ≤ budget
  /-- The call is built anew where it is old or an auction has just passed, and nowhere else. -/
  builds : turn.building?.isSome = true ↔ budget < turn.age ∨ afterAuction = true
  /-- An old call that cannot be built anew is not sent. -/
  lost : ∀ failure, turn.building? = some (.error failure) → budget < turn.age →
    turn.sending? = none
  /-- Any other call that cannot be built anew is sent as it is. -/
  kept : ∀ failure, turn.building? = some (.error failure) → turn.age ≤ budget →
    ∃ reply, turn.sending? = some (turn.call, reply)

end Turn

/-- The turns follow each other: each starts with the call that the one before it leaves. -/
def Follow : UpdateCall → List Turn → Prop
  | _, [] => True
  | call, turn :: turns => turn.call = call ∧ Follow turn.leaves turns

end Delivery

namespace DeliveryManager

open Delivery

variable {manager : DeliveryManager} {request : DeliveryRequest} {afterAuction : Bool}
  {calls : Calls} {elapsed : Millis} {build : Nat → Attempt UpdateCall}

theorem isStale_iff {age : Millis} :
    manager.isStale age = true ↔ manager.settings.freshnessBudget < age := by
  simp [isStale]

theorem Preparation.turn {progress : Progress} {preparing : Calls} {prepared : Prepared}
    (configured : request.regenerate? = some build)
    (prepares : Preparation manager request afterAuction progress preparing prepared)
    (sending? : Option (UpdateCall × Except Failure Dispatched))
    (sends : sending?.map (·.1) = prepared.call?) :
    ∃ turn : Turn, turn.call = progress.call ∧
      turn.calls build = preparing ++ sending?.toList.map (fun sent => ⟨.submit sent.1, sent.2⟩) ∧
      turn.leaves = prepared.call?.getD progress.call ∧
      turn.Disciplined manager.settings.freshnessBudget
        (decide (progress.attempts = 0) && afterAuction) := by
  have refreshes_iff (age : Millis) : manager.Refreshes afterAuction progress age ↔
      manager.settings.freshnessBudget < age ∨
        (decide (progress.attempts = 0) && afterAuction) = true := by
    simp [Refreshes, isStale_iff]
  cases prepares with
  | @asItIs age spared =>
    have calm := mt (refreshes_iff age).mpr (spared build configured)
    obtain ⟨young, later⟩ := not_or.mp calm
    refine ⟨⟨progress.call, age, progress.regenerations, none, sending?⟩, rfl, rfl, rfl, ?_⟩
    constructor
    case sends =>
      rintro call reply rfl
      exact .inr ⟨Option.some.inj sends, Nat.le_of_not_lt young⟩
    case builds => simpa using calm
    case lost => rintro _ ⟨⟩
    case kept => rintro _ ⟨⟩
  | @rebuilt age built fresh known refreshes =>
    cases configured.symm.trans known
    refine ⟨⟨progress.call, age, progress.regenerations, some (.ok fresh), sending?⟩,
      rfl, rfl, rfl, ?_⟩
    constructor
    case sends =>
      rintro call reply rfl
      cases sends
      exact .inl rfl
    case builds => exact iff_of_true rfl ((refreshes_iff age).mp refreshes)
    case lost => rintro _ ⟨⟩
    case kept => rintro _ ⟨⟩
  | @unbuilt age built failure known refreshes =>
    cases configured.symm.trans known
    refine ⟨⟨progress.call, age, progress.regenerations, some (.error failure), sending?⟩,
      rfl, rfl, ?_, ?_⟩
    · cases stale : manager.isStale age <;> rfl
    by_cases old : manager.settings.freshnessBudget < age
    · -- The attempt is lost.
      rw [if_pos (isStale_iff.mpr old)] at sends
      have nothing : sending? = none := Option.map_eq_none_iff.mp sends
      subst nothing
      constructor
      case sends => rintro _ _ ⟨⟩
      case builds => exact iff_of_true rfl (.inl old)
      case lost => exact fun _ _ _ => rfl
      case kept => exact fun _ _ young => absurd old (Nat.not_lt.mpr young)
    · have young := Nat.le_of_not_lt old
      rw [if_neg (mt isStale_iff.mp old)] at sends
      obtain ⟨⟨call, reply⟩, rfl, same⟩ := Option.map_eq_some_iff.mp sends
      cases same
      constructor
      case sends =>
        rintro _ _ ⟨⟩
        exact .inr ⟨rfl, young⟩
      case builds => exact iff_of_true rfl ((refreshes_iff age).mp refreshes)
      case lost => exact fun _ _ late => absurd late old
      case kept => exact fun _ _ _ => ⟨reply, rfl⟩

/-- What the attempts of a delivery ask for, as turns. Only the first can come right after an
auction. -/
structure Turns (budget : Millis) (build : Nat → Attempt UpdateCall) (limit : Nat) (first : Bool)
    (call : UpdateCall) (calls : Calls) (turns : List Turn) : Prop where
  asked : calls = turns.flatMap (Turn.calls build)
  bounded : turns.length ≤ limit
  /-- Attempts are left only where one of them sent the update. -/
  exhausted : turns.length = limit ∨ ∃ dispatched, .ok dispatched ∈ submissions calls
  follow : Follow call turns
  disciplined : ∀ index (turn : Turn), turns[index]? = some turn →
    turn.Disciplined budget (decide (index = 0) && first)

theorem Turns.cons {budget : Millis} {limit : Nat} {first : Bool} {call : UpdateCall}
    {turn : Turn} {turns : List Turn} {later : Calls} (starts : turn.call = call)
    (asked : calls = turn.calls build ++ later) (disciplined : turn.Disciplined budget first)
    (rest : Turns budget build limit false turn.leaves later turns) :
    Turns budget build (limit + 1) first call calls (turn :: turns) := by
  constructor
  case asked => rw [asked, rest.asked, List.flatMap_cons]
  case bounded => exact Nat.succ_le_succ rest.bounded
  case exhausted =>
    rcases rest.exhausted with all | ⟨dispatched, sent⟩
    · exact .inl (congrArg Nat.succ all)
    · exact .inr ⟨dispatched, by simp [asked, sent]⟩
  case follow => exact ⟨starts, rest.follow⟩
  case disciplined =>
    intro index other found
    cases index with
    | zero =>
      cases found
      simpa using disciplined
    | succ index => simpa using rest.disciplined index other found

theorem Turns.last {budget : Millis} {limit : Nat} {first : Bool} {call : UpdateCall}
    {turn : Turn} (starts : turn.call = call) (disciplined : turn.Disciplined budget first)
    (sent : ∃ dispatched, .ok dispatched ∈ submissions (turn.calls build)) :
    Turns budget build (limit + 1) first call (turn.calls build) [turn] := by
  constructor
  case asked => simp
  case bounded => simp
  case exhausted => exact .inr sent
  case follow => exact ⟨starts, trivial⟩
  case disciplined =>
    intro index other found
    obtain ⟨rfl, rfl⟩ : index = 0 ∧ turn = other := by
      simpa [List.getElem?_singleton] using found
    simpa using disciplined

/-- The attempts that are left are turns. -/
theorem attempt_turns {left : Nat} {progress : Progress} {result? : Option Dispatched}
    (configured : request.regenerate? = some build)
    (ends : (manager.attempt request afterAuction left progress).Ends calls elapsed result?) :
    ∃ turns, Turns manager.settings.freshnessBudget build left
      (decide (progress.attempts = 0) && afterAuction) progress.call calls turns := by
  induction left generalizing progress calls elapsed with
  | zero =>
    obtain ⟨rfl, rfl, rfl⟩ := Activity.ends_done_iff.mp ends
    exact ⟨[], rfl, Nat.le_refl 0, .inl rfl, trivial, by simp⟩
  | succ left ih =>
    cases attempt_ends ends with
    | lost prepares unready rest =>
      obtain ⟨turn, starts, asked, leaves, disciplined⟩ :=
        prepares.turn configured none (by rw [unready]; rfl)
      obtain ⟨turns, rest⟩ := ih rest
      have same : turn.leaves = progress.call := by rw [leaves, unready]; rfl
      exact ⟨turn :: turns, .cons starts (by simp [asked]) disciplined (same ▸ rest)⟩
    | @sent _ _ call dispatched prepares ready =>
      obtain ⟨turn, starts, asked, leaves, disciplined⟩ :=
        prepares.turn configured (some (call, .ok dispatched)) ready.symm
      have sent : ∃ dispatched, .ok dispatched ∈ submissions (turn.calls build) :=
        ⟨dispatched, by simp [asked, submissions]⟩
      exact ⟨[turn], asked ▸ .last starts disciplined sent⟩
    | @refused _ _ _ call failure _ _ prepares ready rest =>
      obtain ⟨turn, starts, asked, leaves, disciplined⟩ :=
        prepares.turn configured (some (call, .error failure)) ready.symm
      obtain ⟨turns, rest⟩ := ih rest
      have same : turn.leaves = call := by rw [leaves, ready]; rfl
      exact ⟨turn :: turns, .cons starts (by simp [asked]) disciplined (same ▸ rest)⟩

/-- Where nothing is sent in front and something is built there, something is built before anything
is sent. -/
theorem built_before_sent {front rest earlier later : Calls} {call : UpdateCall}
    {reply : Except Failure Dispatched} (unsent : submissions front = [])
    (built : regenerations front ≠ [])
    (same : front ++ rest = earlier ++ ⟨.submit call, reply⟩ :: later) :
    regenerations earlier ≠ [] := by
  rcases List.append_eq_append_iff.mp same with ⟨more, rfl, _⟩ | ⟨cut, rfl, crossing⟩
  · simp [built]
  · cases cut with
    | nil => simpa using built
    | cons exchange cut =>
      cases crossing
      simp [submissions] at unsent

theorem Turn.builds_first {turn : Turn} (build : Nat → Attempt UpdateCall)
    (building : turn.building?.isSome = true) :
    ∃ front sending, turn.calls build = front ++ sending ∧ submissions front = [] ∧
      regenerations front ≠ [] := by
  obtain ⟨result, built⟩ := Option.isSome_iff_exists.mp building
  refine ⟨[⟨.age turn.call, turn.age⟩, ⟨.regenerate build turn.before, result⟩],
    turn.sending?.toList.map fun sent => ⟨.submit sent.1, sent.2⟩, ?_, rfl, ?_⟩
  · rw [Turn.calls, built]
    rfl
  · simp [regenerations]

/-- What holds of a delivery whose call can be built anew: after the auction, if there is one, it
goes by turns. -/
structure Refreshed (manager : DeliveryManager) (request : DeliveryRequest)
    (build : Nat → Attempt UpdateCall) (opening calls : Calls) (turns : List Turn) : Prop where
  opens : opening.map (·.question) = manager.auction?.toList.map .auction
  asked : calls = opening ++ turns.flatMap (Turn.calls build)
  bounded : turns.length ≤ manager.settings.maxAttempts
  /-- Attempts are left only where the update was sent, or the auction was lost and it can wait. -/
  exhausted : turns.length = manager.settings.maxAttempts ∨
    (∃ dispatched, .ok dispatched ∈ submissions calls) ∨ manager.Omits request (auctions calls)
  follow : Follow request.call turns
  disciplined : ∀ index (turn : Turn), turns[index]? = some turn →
    turn.Disciplined manager.settings.freshnessBudget
      (decide (index = 0) && manager.auction?.isSome)
  /-- After an auction the call is built anew before anything is sent. -/
  afterAuction : manager.auction?.isSome = true → ∀ earlier call reply later,
    calls = earlier ++ ⟨.submit call, reply⟩ :: later → regenerations earlier ≠ []

section

variable {opening : Calls} {turns : List Turn} {outcome : DeliveryOutcome}

theorem submissions_opening
    (opens : opening.map (·.question) = manager.auction?.toList.map .auction) :
    submissions opening = [] := by
  apply List.filterMap_eq_nil_iff.mpr
  rintro ⟨question, reply⟩ member
  have asked := List.mem_map_of_mem (f := fun exchange => exchange.question) member
  rw [opens] at asked
  obtain ⟨lane, _, same⟩ := List.mem_map.mp asked
  cases same
  rfl

/-- Where the attempts are turns, and the first one is the first after the auction, the call is
built anew before anything is sent. -/
theorem Turns.builds_first {budget : Millis} {limit : Nat} {call : UpdateCall}
    (course : Turns budget build limit true call calls turns) (unsent : submissions opening = [])
    {earlier later : Calls} {sent : UpdateCall} {reply : Except Failure Dispatched}
    (same : opening ++ calls = earlier ++ ⟨.submit sent, reply⟩ :: later) :
    regenerations earlier ≠ [] := by
  cases turns with
  | nil =>
    rw [course.asked] at same
    have none_sent : submissions (earlier ++ ⟨.submit sent, reply⟩ :: later) = [] := by
      rw [← same]
      simpa using unsent
    simp [submissions] at none_sent
  | cons turn turns =>
    have disciplined := course.disciplined 0 turn rfl
    obtain ⟨front, sending, split, quiet, built⟩ :=
      Turn.builds_first build (disciplined.builds.mpr (.inr rfl))
    rw [course.asked, List.flatMap_cons, split, List.append_assoc, ← List.append_assoc] at same
    exact built_before_sent (by simp [unsent, quiet]) (by simp [built]) same

theorem sendAfter_refreshed {auctionWon fallbackUsed : Bool}
    (configured : request.regenerate? = some build)
    (opens : opening.map (·.question) = manager.auction?.toList.map .auction)
    (ends : (manager.sendAfter request auctionWon fallbackUsed).Ends calls elapsed outcome) :
    ∃ turns, manager.Refreshed request build opening (opening ++ calls) turns := by
  obtain ⟨sending, rest, _, _, result?, rfl, rfl, attempts, concluding⟩ :=
    Activity.ends_bind_iff.mp ends
  have nothing : rest = [] := by
    cases result? with
    | none => exact (Activity.ends_done_iff.mp concluding).1
    | some dispatched => exact (Activity.ends_done_iff.mp concluding).1
  obtain ⟨turns, course⟩ := attempt_turns configured attempts
  have unsent := submissions_opening opens
  rw [nothing, List.append_nil]
  refine ⟨turns, opens, by rw [course.asked], course.bounded, ?_, course.follow,
    course.disciplined, ?_⟩
  · rcases course.exhausted with all | ⟨dispatched, sent⟩
    · exact .inl all
    · exact .inr (.inl ⟨dispatched, by simp [sent]⟩)
  · intro isAuction earlier call reply later same
    rw [isAuction] at course
    exact course.builds_first unsent same

/-- However its calls are answered, a delivery whose call can be built anew sends only what it built
in the same attempt, and what was not too old at the start of the attempt. -/
theorem deliver_refreshed {State : Type} (manager : DeliveryManager) (request : DeliveryRequest)
    (host : Host world State) (state : State) (build : Nat → Attempt UpdateCall)
    (configured : request.regenerate? = some build) :
    ∃ opening turns, manager.Refreshed request build opening
      (manager.callsIn request host state) turns := by
  have ends := Activity.run_ends (host.serving (manager.serve request)) (manager.procedure request)
    state
  change Activity.Ends _ (manager.callsIn request host state) _ _ at ends
  generalize manager.callsIn request host state = calls at ends
  unfold procedure at ends
  split at ends
  case h_1 direct =>
    have opens : ([] : Calls).map (·.question) = manager.auction?.toList.map .auction := by
      rw [direct]
      rfl
    obtain ⟨turns, refreshed⟩ := sendAfter_refreshed configured opens ends
    exact ⟨[], turns, refreshed⟩
  case h_2 lane auctioned =>
    obtain ⟨result, rest, rfl, onward⟩ := Activity.ends_question_bind_iff.mp ends
    have opens : [(⟨.auction lane, result⟩ : Exchange deliveryParties)].map (·.question) =
        manager.auction?.toList.map .auction := by
      rw [auctioned]
      rfl
    cases result with
    | ok win =>
      obtain ⟨turns, refreshed⟩ := sendAfter_refreshed configured opens onward
      exact ⟨_, turns, refreshed⟩
    | error failure =>
      dsimp only at onward
      split at onward
      case isTrue optional =>
        obtain ⟨rfl, _⟩ := Activity.ends_done_iff.mp onward
        rw [Bool.and_eq_true] at optional
        have omits : manager.Omits request [.error failure] :=
          ⟨lane, failure, auctioned, rfl, optional⟩
        refine ⟨_, [], opens, rfl, Nat.zero_le _, .inr (.inr omits), trivial, by simp, ?_⟩
        intro _ earlier call reply later same
        have unsent := submissions_opening opens
        rw [same] at unsent
        simp [submissions] at unsent
      case isFalse =>
        obtain ⟨turns, refreshed⟩ := sendAfter_refreshed configured opens onward
        exact ⟨_, turns, refreshed⟩

end

/-- A world in which the call at hand is older each time it is looked at, and nothing is sent. -/
def growingOld : Host world Millis where
  answer
    | .age _, age => (age, age + 60)
    | other, age => ((AuctionLane.sampleWorld.answer other ()).1, age)

/-- Three attempts after an auction, with calls that are at most 100 old. -/
def threeAttempts : DeliveryManager :=
  let lane := AuctionLane.sampleLane 6
  { adapter := lane.adapter, rpc := lane.rpc, settings := ⟨3, 100, 0, 0⟩, auction? := some lane }

def buildsOnce (before : Nat) : Attempt UpdateCall :=
  .done (if before = 0 then .ok { AuctionLane.sampleCall with data := [8] } else .error .transport)

def rebuiltOnce : DeliveryRequest :=
  { call := AuctionLane.sampleCall, packages := AuctionLane.samplePackages, timestamp := 3000
    block := 1, canOmit := false, regenerate? := some buildsOnce }

/-- The call is built anew after the auction and sent in two attempts; in the third one it is old,
cannot be built, and is not sent. -/
theorem deliver_refreshed_thrice :
    rebuiltOnce.regenerate? = some buildsOnce ∧
      (submissions (threeAttempts.callsIn rebuiltOnce growingOld 0)).length = 2 ∧
      (regenerations (threeAttempts.callsIn rebuiltOnce growingOld 0)).length = 2 ∧
      ∃ opening turns, threeAttempts.Refreshed rebuiltOnce buildsOnce opening
        (threeAttempts.callsIn rebuiltOnce growingOld 0) turns :=
  ⟨rfl, by decide +kernel, by decide +kernel,
    deliver_refreshed threeAttempts rebuiltOnce growingOld 0 buildsOnce rfl⟩

end DeliveryManager

end PriceRelay
