import PriceRelay.Activity.Beside
import PriceRelay.Proofs.Activity.Reaching
/-!
Activities within a limit: the result comes from the activity in time, or the activity overruns the
limit.
-/

namespace PriceRelay.Activity

variable {I : Interface} {α : Type} {activity : Activity I α} {trace : List (Exchange I)}
  {limit elapsed : Millis} {result : α}

theorem within_ask (question : I.Ask) (next : I.Reply question → Activity I α) :
    within limit (.ask question next) = .ask question fun reply => within limit (next reply) := rfl

theorem within_sleep (duration : Millis) (next : Activity I α) :
    within limit (.sleep duration next) =
      if duration ≤ limit then .sleep duration (within (limit - duration) next)
      else .sleep limit (.done none) := rfl

theorem ends_of_within_some (ends : (within limit activity).Ends trace elapsed (some result)) :
    activity.Ends trace elapsed result ∧ elapsed ≤ limit := by
  induction activity generalizing limit trace elapsed with
  | done value =>
    obtain ⟨rfl, rfl, same⟩ := ends_done_iff.mp ends
    obtain rfl := Option.some.inj same
    exact ⟨.done result, Nat.zero_le limit⟩
  | ask question next ih =>
    rw [within_ask] at ends
    obtain ⟨reply, rest, rfl, onward⟩ := ends_ask_iff.mp ends
    obtain ⟨inner, inTime⟩ := ih reply onward
    exact ⟨.ask reply inner, inTime⟩
  | sleep duration next ih =>
    rw [within_sleep] at ends
    split at ends
    case isTrue fits =>
      obtain ⟨rest, rfl, onward⟩ := ends_sleep_iff.mp ends
      obtain ⟨inner, inTime⟩ := ih onward
      exact ⟨.sleep duration inner, Nat.add_le_of_le_sub' fits inTime⟩
    case isFalse =>
      obtain ⟨rest, rfl, onward⟩ := ends_sleep_iff.mp ends
      obtain ⟨_, _, same⟩ := ends_done_iff.mp onward
      cases same

/-- Without a result the limit is over, and the activity overran it. -/
theorem ends_of_within_none (ends : (within limit activity).Ends trace elapsed none) :
    activity.Overruns limit trace ∧ elapsed = limit := by
  induction activity generalizing limit trace elapsed with
  | done value =>
    obtain ⟨_, _, same⟩ := ends_done_iff.mp ends
    cases same
  | ask question next ih =>
    rw [within_ask] at ends
    obtain ⟨reply, rest, rfl, onward⟩ := ends_ask_iff.mp ends
    obtain ⟨overruns, atLimit⟩ := ih reply onward
    exact ⟨overruns_ask_iff.mpr ⟨reply, rest, rfl, overruns⟩, atLimit⟩
  | sleep duration next ih =>
    rw [within_sleep] at ends
    split at ends
    case isTrue fits =>
      obtain ⟨rest, rfl, onward⟩ := ends_sleep_iff.mp ends
      obtain ⟨overruns, rfl⟩ := ih onward
      have split := (Nat.add_sub_of_le fits).symm
      exact ⟨overruns_sleep_iff.mpr (.inr ⟨_, split, overruns⟩), split.symm⟩
    case isFalse long =>
      obtain ⟨rest, rfl, onward⟩ := ends_sleep_iff.mp ends
      obtain ⟨rfl, rfl, _⟩ := ends_done_iff.mp onward
      exact ⟨overruns_sleep_iff.mpr (.inl ⟨Nat.lt_of_not_le long, rfl⟩), Nat.add_zero limit⟩

theorem not_overruns_within : ¬(within limit activity).Overruns limit trace := by
  induction activity generalizing limit trace with
  | done value => exact not_overruns_done
  | ask question next ih =>
    intro overruns
    rw [within_ask] at overruns
    obtain ⟨reply, rest, rfl, onward⟩ := overruns_ask_iff.mp overruns
    exact ih reply onward
  | sleep duration next ih =>
    intro overruns
    rw [within_sleep] at overruns
    split at overruns
    case isTrue fits =>
      rcases overruns_sleep_iff.mp overruns with ⟨long, rfl⟩ | ⟨left, rfl, onward⟩
      · exact absurd long (Nat.not_lt_of_le fits)
      · rw [Nat.add_sub_cancel_left] at onward
        exact ih onward
    case isFalse =>
      rcases overruns_sleep_iff.mp overruns with ⟨long, rfl⟩ | ⟨left, same, onward⟩
      · exact Nat.lt_irrefl limit long
      · exact not_overruns_done onward

end PriceRelay.Activity
