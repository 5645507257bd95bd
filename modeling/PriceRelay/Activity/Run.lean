import PriceRelay.Activity.Basic
/-!
Runs of activities in a world that answers every question at once. The clock moves when an activity
sleeps, and in no other way.
-/

namespace PriceRelay

/-- A world with a state. -/
structure Host (I : Interface) (State : Type) where
  answer : (question : I.Ask) → State → I.Reply question × State

/-- The end of a run. -/
structure Run (State α : Type) where
  result : α
  state : State
  /-- The time that has passed. -/
  elapsed : Millis

namespace Activity

variable {I : Interface} {State α : Type}

/-- Run an activity in a world, some time after the start. -/
def runFrom (host : Host I State) : Activity I α → State → Millis → Run State α
  | .done result, state, elapsed => ⟨result, state, elapsed⟩
  | .ask question next, state, elapsed =>
    let (reply, state) := host.answer question state
    (next reply).runFrom host state elapsed
  | .sleep duration next, state, elapsed => next.runFrom host state (elapsed + duration)

/-- Run an activity in a world. -/
def run (host : Host I State) (activity : Activity I α) (state : State) : Run State α :=
  activity.runFrom host state 0

/-- A later start ends later, and changes nothing else. -/
theorem runFrom_eq (host : Host I State) (activity : Activity I α) (state : State)
    (elapsed : Millis) :
    activity.runFrom host state elapsed =
      { activity.run host state with elapsed := elapsed + (activity.run host state).elapsed } := by
  unfold run
  induction activity generalizing state elapsed with
  | done result => rfl
  | ask question next ih => exact ih _ _ _
  | sleep duration next ih =>
    simp only [runFrom, Nat.zero_add]
    rw [ih state (elapsed + duration), ih state duration, Nat.add_assoc]

end Activity

end PriceRelay
