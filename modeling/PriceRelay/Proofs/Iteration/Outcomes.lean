import PriceRelay.Iteration.Relayer
import PriceRelay.Proofs.Activity.Limits
import PriceRelay.Proofs.Activity.Uses
/-!
How iterations and signs of life end. An iteration ends whatever comes of it, with a report if it
failed, and a sign of life ends in time, also if nobody takes notice of it.
-/

namespace PriceRelay.Relayer

variable {relayer : Relayer} {record : List (Exchange world)} {spent : Millis}

def reports : Except Failure IterationOutcome → List (Exchange world)
  | .ok _ => []
  | .error failure => [⟨.note (iterationFailed failure), ()⟩]

/-- An iteration has come to an outcome, a failure or not, and has reported it. -/
def Iterated (relayer : Relayer) (record : List (Exchange world)) (spent : Millis) : Prop :=
  ∃ course outcome, relayer.iterate.Ends course spent outcome ∧ record = course ++ reports outcome

theorem iterateOnce_ends {watch : Task Unit}
    (ends : relayer.iterateOnce.Ends record spent watch) : relayer.Iterated record spent := by
  obtain ⟨course, after, early, late, outcome, rfl, rfl, own, rest⟩ :=
    Activity.ends_bind_iff.mp ends
  refine ⟨course, outcome, ?_⟩
  cases outcome with
  | ok outcome =>
    obtain ⟨rfl, rfl, -⟩ := Activity.ends_done_iff.mp rest
    exact ⟨own, rfl⟩
  | error failure =>
    obtain ⟨reply, last, rfl, finished⟩ := Activity.ends_question_bind_iff.mp rest
    obtain ⟨rfl, rfl, -⟩ := Activity.ends_done_iff.mp finished
    exact ⟨own, rfl⟩

def isPing (exchange : Exchange world) : Bool :=
  match exchange.question with
  | .ping => true
  | _ => false

/-- One sign of life is given, and it takes no longer than it may. -/
theorem ping_ends {result : Unit} (ends : relayer.ping.Ends record spent result) :
    record.countP isPing = 1 ∧ spent ≤ relayer.pingLimit := by
  obtain ⟨asking, after, early, late, answer, rfl, rfl, own, rest⟩ :=
    Activity.ends_bind_iff.mp ends
  have once : asking.countP isPing = 1 := by
    obtain ⟨reply, waiting, rfl, settled⟩ := Activity.ends_ask_iff.mp own
    rw [Task.within_settle_quiet settled]
    rfl
  cases answer with
  | some answer =>
    obtain ⟨rfl, rfl, -⟩ := Activity.ends_done_iff.mp rest
    rw [List.append_nil]
    exact ⟨once, (Activity.ends_of_within_some own).2⟩
  | none =>
    obtain ⟨reply, last, rfl, finished⟩ := Activity.ends_ask_iff.mp rest
    obtain ⟨rfl, rfl, -⟩ := Activity.ends_done_iff.mp finished
    rw [List.countP_append, once]
    exact ⟨rfl, Nat.le_of_eq (Activity.ends_of_within_none own).2⟩

end PriceRelay.Relayer
