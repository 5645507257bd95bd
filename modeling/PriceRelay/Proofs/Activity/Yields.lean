import PriceRelay.Proofs.Activity.Observed
/-!
What attempts yield in a trace: one value whenever they are observed, or nothing but failures. What
a composition yields follows from what its parts do.
-/

namespace PriceRelay.Activity

variable {I : Interface} {α β ε : Type} {trace : List (Exchange I)}

/-- Whatever is observed of an attempt in a trace is a success with this value, or without a value a
failure. -/
def Yields (attempt : Activity I (Except ε α)) (trace : List (Exchange I)) (value? : Option α) :
    Prop :=
  ∀ result, attempt.Observed trace result → result.toOption = value?

theorem yields_done (result : Except ε α) :
    (Activity.done result : Activity I (Except ε α)).Yields trace result.toOption := by
  intro other observed
  rw [observed_done_iff.mp observed]

namespace Yields

variable {first : Activity I (Except ε α)} {value? : Option α}

theorem andThen {next : α → Activity I (Except ε β)} {next? : α → Option β}
    (one : first.Yields trace value?) (two : ∀ value, (next value).Yields trace (next? value)) :
    (Activity.andThen first next).Yields trace (value?.bind next?) := by
  intro result observed
  cases result with
  | ok last =>
    obtain ⟨middle, began, ended⟩ := observed_andThen_ok observed
    rw [← one _ began]
    exact two _ _ ended
  | error failure =>
    rcases observed_andThen_error observed with failed | ⟨middle, began, ended⟩
    · rw [← one _ failed]
      rfl
    · rw [← one _ began]
      exact two _ _ ended

theorem mapError {δ : Type} {change : ε → δ} (one : first.Yields trace value?) :
    (Activity.mapError change first).Yields trace value? := by
  intro result observed
  cases result with
  | ok value => exact one _ (observed_mapError_ok observed)
  | error failure =>
    obtain ⟨original, failed⟩ := observed_mapError_error observed
    exact one _ failed

theorem tryBoth {second : Activity I (Except ε β)} {other? : Option β}
    (one : first.Yields trace value?) (two : second.Yields trace other?) :
    (Activity.tryBoth first second).Yields trace
      (value?.bind fun value => other?.map fun other => (value, other)) := by
  intro result observed
  cases result with
  | ok pair =>
    obtain ⟨left, right⟩ := observed_tryBoth_ok observed
    rw [← one _ left, ← two _ right]
    rfl
  | error failure =>
    rcases observed_tryBoth_error observed with failed | failed
    · rw [← one _ failed]
      rfl
    · rw [← two _ failed]
      cases value? <;> rfl

end Yields

end PriceRelay.Activity
