import PriceRelay.Proofs.Activity.Sharing
/-!
Activities side by side. Each goes its own way through a part of the trace, in the time that passes
for all; the first to end hands over to what becomes of both.
-/

namespace PriceRelay.Activity

variable {I : Interface} {α β γ : Type}

/-- In a part of a trace, an activity gets to a rest after some time. -/
def Follows (activity : Activity I α) (trace : List (Exchange I)) (elapsed : Millis)
    (rest : Activity I α) : Prop :=
  ∃ part, part.Sublist trace ∧ activity.Reaches part elapsed rest

section

variable {left left' : Activity I α} {right right' : Activity I β} {trace : List (Exchange I)}
  {elapsed : Millis}

theorem Shares.follows (walk : left.Shares right trace elapsed left' right') :
    left.Follows trace elapsed left' ∧ right.Follows trace elapsed right' := by
  obtain ⟨own, other, parts, leftWalk, rightWalk⟩ := walk
  exact ⟨⟨own, parts.left_sublist, leftWalk⟩, ⟨other, parts.right_sublist, rightWalk⟩⟩

end

section

variable {onLeft : α → Activity I β → Activity I γ} {onRight : β → Activity I α → Activity I γ}
  {left : Activity I α} {right : Activity I β} {trace : List (Exchange I)} {elapsed : Millis}

theorem beside_eq_done {result : γ} (same : beside onLeft onRight left right = .done result) :
    (∃ ended, left = .done ended ∧ onLeft ended right = .done result) ∨
      ∃ ended, right = .done ended ∧ onRight ended left = .done result := by
  cases left with
  | done ended => exact .inl ⟨ended, rfl, same⟩
  | ask question next => cases same
  | sleep duration next =>
    cases right with
    | done ended => exact .inr ⟨ended, rfl, same⟩
    | ask question next => cases same
    | sleep other nextRight =>
      rw [beside_sleep] at same
      split at same <;> cases same

theorem ends_beside {result : γ}
    (ends : (beside onLeft onRight left right).Ends trace elapsed result) :
    ∃ before after early late, trace = before ++ after ∧ elapsed = early + late ∧
      ((∃ ended right', left.Follows before early (.done ended) ∧
          right.Follows before early right' ∧ (onLeft ended right').Ends after late result) ∨
        ∃ ended left', right.Follows before early (.done ended) ∧
          left.Follows before early left' ∧ (onRight ended left').Ends after late result) := by
  cases handover_beside (reaches_done_iff.mpr ends) with
  | running walk same =>
    obtain ⟨leftWalk, rightWalk⟩ := walk.follows
    refine ⟨trace, [], elapsed, 0, (List.append_nil trace).symm, rfl, ?_⟩
    rcases beside_eq_done same.symm with ⟨ended, rfl, last⟩ | ⟨ended, rfl, last⟩
    · exact .inl ⟨ended, _, leftWalk, rightWalk, last ▸ .done result⟩
    · exact .inr ⟨ended, _, rightWalk, leftWalk, last ▸ .done result⟩
  | left split time walk onward =>
    obtain ⟨ended, other⟩ := walk.follows
    exact ⟨_, _, _, _, split, time, .inl ⟨_, _, ended, other, reaches_done_iff.mp onward⟩⟩
  | right split time walk onward =>
    obtain ⟨other, ended⟩ := walk.follows
    exact ⟨_, _, _, _, split, time, .inr ⟨_, _, ended, other, reaches_done_iff.mp onward⟩⟩

end

end PriceRelay.Activity
