import PriceRelay.Proofs.Activity.SideBySide
/-!
What can be observed in a trace: some part of it answers an activity with a result, or shows the
activity overrun a limit. What is observed of a composition is observed of its parts.
-/

namespace PriceRelay.Activity

variable {I : Interface} {α β γ ε : Type} {trace before after : List (Exchange I)}

/-- A part of a trace answers an activity with a result. -/
def Observed (activity : Activity I α) (trace : List (Exchange I)) (result : α) : Prop :=
  ∃ part elapsed, part.Sublist trace ∧ activity.Ends part elapsed result

/-- In a part of a trace, an activity overruns a limit. -/
def Overran (limit : Millis) (activity : Activity I α) (trace : List (Exchange I)) : Prop :=
  ∃ part, part.Sublist trace ∧ activity.Overruns limit part

section

variable {activity rest : Activity I α} {elapsed early late limit : Millis} {result : α}

theorem Ends.observed (ends : activity.Ends trace elapsed result) :
    activity.Observed trace result :=
  ⟨trace, elapsed, List.Sublist.refl trace, ends⟩

theorem Overruns.overran (overruns : activity.Overruns limit trace) :
    activity.Overran limit trace :=
  ⟨trace, List.Sublist.refl trace, overruns⟩

theorem Observed.mono (observed : activity.Observed before result)
    (part : before.Sublist after) : activity.Observed after result := by
  obtain ⟨piece, elapsed, sub, ends⟩ := observed
  exact ⟨piece, elapsed, sub.trans part, ends⟩

theorem Overran.mono (overran : activity.Overran limit before) (part : before.Sublist after) :
    activity.Overran limit after := by
  obtain ⟨piece, sub, overruns⟩ := overran
  exact ⟨piece, sub.trans part, overruns⟩

/-- A result is observed where an activity got to a rest that has it. -/
theorem Follows.observed (walk : activity.Follows before early rest)
    (observed : rest.Observed after result) : activity.Observed (before ++ after) result := by
  obtain ⟨part, sub, reaches⟩ := walk
  obtain ⟨piece, elapsed, pieceSub, ends⟩ := observed
  exact ⟨part ++ piece, early + elapsed, sub.append pieceSub, reaches.ends ends⟩

theorem Follows.observed_done (walk : activity.Follows before early (.done result)) :
    activity.Observed before result := by
  obtain ⟨part, sub, reaches⟩ := walk
  exact ⟨part, early, sub, reaches_done_iff.mp reaches⟩

theorem Follows.overran (walk : activity.Follows before early rest)
    (overran : rest.Overran late after) : activity.Overran (early + late) (before ++ after) := by
  obtain ⟨part, sub, reaches⟩ := walk
  obtain ⟨piece, pieceSub, duration, next, positive, onward⟩ := overran
  exact ⟨part ++ piece, sub.append pieceSub, duration, next, positive, reaches.trans onward⟩

theorem Follows.overran_asleep {duration : Millis} {next : Activity I α} (positive : 0 < duration)
    (walk : activity.Follows before early (.sleep duration next)) :
    activity.Overran early before := by
  obtain ⟨part, sub, reaches⟩ := walk
  exact ⟨part, sub, duration, next, positive, reaches⟩

theorem observed_done_iff {value : α} :
    (Activity.done value : Activity I α).Observed trace result ↔ result = value := by
  constructor
  · rintro ⟨part, elapsed, _, ends⟩
    exact (ends_done_iff.mp ends).2.2
  · rintro rfl
    exact ⟨[], 0, List.nil_sublist trace, .done result⟩

theorem observed_of_within_some (observed : (within limit activity).Observed trace (some result)) :
    activity.Observed trace result := by
  obtain ⟨part, elapsed, sub, ends⟩ := observed
  exact ⟨part, elapsed, sub, (ends_of_within_some ends).1⟩

theorem overran_of_within_none (observed : (within limit activity).Observed trace none) :
    activity.Overran limit trace := by
  obtain ⟨part, elapsed, sub, ends⟩ := observed
  exact ⟨part, sub, (ends_of_within_none ends).1⟩

end

section Sequence

variable {first : Activity I α} {next : α → Activity I β} {limit : Millis} {result : β}

theorem observed_bind (observed : (first.bind next).Observed trace result) :
    ∃ middle, first.Observed trace middle ∧ (next middle).Observed trace result := by
  obtain ⟨part, elapsed, sub, ends⟩ := observed
  obtain ⟨before, after, early, late, middle, rfl, rfl, firstEnds, nextEnds⟩ :=
    ends_bind_iff.mp ends
  exact ⟨middle, ⟨before, early, (List.sublist_append_left before after).trans sub, firstEnds⟩,
    ⟨after, late, (List.sublist_append_right before after).trans sub, nextEnds⟩⟩

/-- What takes no time overruns nothing. -/
theorem overran_bind (instant : ∀ middle, ∃ value, next middle = .done value)
    (overran : (first.bind next).Overran limit trace) : first.Overran limit trace := by
  obtain ⟨part, sub, overruns⟩ := overran
  rcases overruns_bind overruns with early | ⟨_, _, _, _, middle, _, _, _, last⟩
  · exact ⟨part, sub, early⟩
  · obtain ⟨value, same⟩ := instant middle
    rw [same] at last
    exact absurd last not_overruns_done

end Sequence

section Attempts

variable {first : Activity I (Except ε α)} {next : α → Activity I (Except ε β)} {limit : Millis}

theorem observed_andThen_ok {result : β} (observed : (andThen first next).Observed trace (.ok result)) :
    ∃ middle, first.Observed trace (.ok middle) ∧ (next middle).Observed trace (.ok result) := by
  obtain ⟨middle, firstObserved, nextObserved⟩ := observed_bind observed
  cases middle with
  | error failure => cases observed_done_iff.mp nextObserved
  | ok middle => exact ⟨middle, firstObserved, nextObserved⟩

theorem observed_andThen_error {failure : ε}
    (observed : (andThen first next).Observed trace (.error failure)) :
    first.Observed trace (.error failure) ∨
      ∃ middle, first.Observed trace (.ok middle) ∧
        (next middle).Observed trace (.error failure) := by
  obtain ⟨middle, firstObserved, nextObserved⟩ := observed_bind observed
  cases middle with
  | error other =>
    obtain rfl := Except.error.inj (observed_done_iff.mp nextObserved)
    exact .inl firstObserved
  | ok middle => exact .inr ⟨middle, firstObserved, nextObserved⟩

theorem overran_andThen (instant : ∀ middle, ∃ value, next middle = .done value)
    (overran : (andThen first next).Overran limit trace) : first.Overran limit trace := by
  refine overran_bind ?_ overran
  intro middle
  cases middle with
  | error failure => exact ⟨.error failure, rfl⟩
  | ok middle => exact instant middle

theorem observed_mapError_ok {δ : Type} {change : ε → δ} {result : α}
    (observed : (mapError change first).Observed trace (.ok result)) :
    first.Observed trace (.ok result) := by
  obtain ⟨middle, firstObserved, last⟩ := observed_bind observed
  cases middle with
  | error failure => cases observed_done_iff.mp last
  | ok middle =>
    obtain rfl := Except.ok.inj (observed_done_iff.mp last)
    exact firstObserved

theorem observed_mapError_error {δ : Type} {change : ε → δ} {failure : δ}
    (observed : (mapError change first).Observed trace (.error failure)) :
    ∃ original, first.Observed trace (.error original) := by
  obtain ⟨middle, firstObserved, last⟩ := observed_bind observed
  cases middle with
  | error original => exact ⟨original, firstObserved⟩
  | ok middle => cases observed_done_iff.mp last

end Attempts

section Parallel

variable {left : Activity I (Except ε α)} {right : Activity I (Except ε β)} {limit : Millis}

/-- Of two activities side by side one ends, and what becomes of both gives the result. The results
of what is left of the other are results of the other. -/
theorem observed_beside {left : Activity I α} {right : Activity I β}
    {onLeft : α → Activity I β → Activity I γ} {onRight : β → Activity I α → Activity I γ}
    {result : γ} (observed : (beside onLeft onRight left right).Observed trace result) :
    ∃ after,
      (∃ ended rest, left.Observed trace ended ∧ (onLeft ended rest).Observed after result ∧
        ∀ value, rest.Observed after value → right.Observed trace value) ∨
      ∃ ended rest, right.Observed trace ended ∧ (onRight ended rest).Observed after result ∧
        ∀ value, rest.Observed after value → left.Observed trace value := by
  obtain ⟨part, elapsed, whole, ends⟩ := observed
  obtain ⟨before, after, early, late, rfl, rfl, split⟩ := ends_beside ends
  have start : before.Sublist trace := (List.sublist_append_left before after).trans whole
  rcases split with ⟨ended, rest, walk, other, onward⟩ | ⟨ended, rest, walk, other, onward⟩
  · have back : ∀ value, rest.Observed after value → right.Observed trace value := by
      intro value later
      exact (other.observed later).mono whole
    exact ⟨after, .inl ⟨ended, rest, walk.observed_done.mono start, onward.observed, back⟩⟩
  · have back : ∀ value, rest.Observed after value → left.Observed trace value := by
      intro value later
      exact (other.observed later).mono whole
    exact ⟨after, .inr ⟨ended, rest, walk.observed_done.mono start, onward.observed, back⟩⟩

theorem observed_tryBoth_ok {a : α} {b : β}
    (observed : (tryBoth left right).Observed trace (.ok (a, b))) :
    left.Observed trace (.ok a) ∧ right.Observed trace (.ok b) := by
  obtain ⟨after, ⟨ended, rest, own, onward, back⟩ | ⟨ended, rest, own, onward, back⟩⟩ :=
    observed_beside observed
  · cases ended with
    | error failure => cases observed_done_iff.mp onward
    | ok first =>
      obtain ⟨second, later, last⟩ := observed_andThen_ok onward
      cases observed_done_iff.mp last
      exact ⟨own, back _ later⟩
  · cases ended with
    | error failure => cases observed_done_iff.mp onward
    | ok second =>
      obtain ⟨first, later, last⟩ := observed_andThen_ok onward
      cases observed_done_iff.mp last
      exact ⟨back _ later, own⟩

theorem observed_tryBoth_error {failure : ε}
    (observed : (tryBoth left right).Observed trace (.error failure)) :
    left.Observed trace (.error failure) ∨ right.Observed trace (.error failure) := by
  obtain ⟨after, ⟨ended, rest, own, onward, back⟩ | ⟨ended, rest, own, onward, back⟩⟩ :=
    observed_beside observed
  · cases ended with
    | error reason =>
      obtain rfl := Except.error.inj (observed_done_iff.mp onward)
      exact .inl own
    | ok first =>
      rcases observed_andThen_error onward with failed | ⟨second, _, last⟩
      · exact .inr (back _ failed)
      · cases observed_done_iff.mp last
  · cases ended with
    | error reason =>
      obtain rfl := Except.error.inj (observed_done_iff.mp onward)
      exact .inr own
    | ok second =>
      rcases observed_andThen_error onward with failed | ⟨first, _, last⟩
      · exact .inl (back _ failed)
      · cases observed_done_iff.mp last

theorem overran_pairing {finish : α → Except ε β}
    (overran : (andThen (left : Activity I (Except ε α)) fun result =>
      .done (finish result)).Overran limit trace) : left.Overran limit trace :=
  overran_andThen (fun result => ⟨finish result, rfl⟩) overran

theorem tryBoth_eq_sleep {duration : Millis} {next : Activity I (Except ε (α × β))}
    (same : tryBoth left right = .sleep duration next) :
    (∃ more rest, duration ≤ more ∧ left = .sleep more rest) ∨
      ∃ rest, right = .sleep duration rest := by
  cases left with
  | done ended =>
    cases ended with
    | error failure => cases same
    | ok first =>
      cases right with
      | done ended => cases ended <;> cases same
      | ask question nextRight => cases same
      | sleep other nextRight =>
        injection same with same
        exact .inr ⟨nextRight, by rw [same]⟩
  | ask question nextLeft => cases same
  | sleep more nextLeft =>
    refine .inl ⟨more, nextLeft, ?_, rfl⟩
    cases right with
    | done ended =>
      cases ended with
      | error failure => cases same
      | ok second =>
        injection same with same
        exact Nat.le_of_eq same.symm
    | ask question nextRight => cases same
    | sleep other nextRight =>
      rw [tryBoth, beside_sleep] at same
      split at same
      case isTrue sooner =>
        injection same with same
        exact Nat.le_of_eq same.symm
      case isFalse later =>
        injection same with same
        rw [← same]
        exact Nat.le_of_not_le later

/-- Where two attempts side by side overrun a limit, one of them does. -/
theorem overran_tryBoth (overran : (tryBoth left right).Overran limit trace) :
    left.Overran limit trace ∨ right.Overran limit trace := by
  obtain ⟨part, sub, duration, next, positive, walk⟩ := overran
  cases handover_beside walk with
  | running walk same =>
    obtain ⟨leftWalk, rightWalk⟩ := walk.follows
    rcases tryBoth_eq_sleep same.symm with ⟨more, rest, atLeast, rfl⟩ | ⟨rest, rfl⟩
    · exact .inl ((leftWalk.overran_asleep (Nat.lt_of_lt_of_le positive atLeast)).mono sub)
    · exact .inr ((rightWalk.overran_asleep positive).mono sub)
  | left split time walk onward =>
    rename_i result rest before after early late
    obtain ⟨_, other⟩ := walk.follows
    subst split time
    cases result with
    | error failure => cases onward
    | ok first =>
      have overruns : (andThen rest fun second => .done (.ok (first, second))).Overruns late after :=
        ⟨duration, next, positive, onward⟩
      exact .inr ((other.overran (overran_pairing overruns.overran)).mono sub)
  | right split time walk onward =>
    rename_i result rest before after early late
    obtain ⟨other, _⟩ := walk.follows
    subst split time
    cases result with
    | error failure => cases onward
    | ok second =>
      have overruns : (andThen rest fun first => .done (.ok (first, second))).Overruns late after :=
        ⟨duration, next, positive, onward⟩
      exact .inl ((other.overran (overran_pairing overruns.overran)).mono sub)

theorem observed_firstOf_ok {left right : Activity I (Except ε α)} {result : α}
    (observed : (firstOf left right).Observed trace (.ok result)) :
    left.Observed trace (.ok result) ∨ right.Observed trace (.ok result) := by
  obtain ⟨after, ⟨ended, rest, own, onward, back⟩ | ⟨ended, rest, own, onward, back⟩⟩ :=
    observed_beside observed
  · cases ended with
    | ok first =>
      cases observed_done_iff.mp onward
      exact .inl own
    | error failure => exact .inr (back _ onward)
  · cases ended with
    | ok second =>
      cases observed_done_iff.mp onward
      exact .inr own
    | error failure => exact .inl (back _ onward)

theorem observed_firstOf_error {left right : Activity I (Except ε α)} {failure : ε}
    (observed : (firstOf left right).Observed trace (.error failure)) :
    (∃ reason, left.Observed trace (.error reason)) ∧
      ∃ reason, right.Observed trace (.error reason) := by
  obtain ⟨after, ⟨ended, rest, own, onward, back⟩ | ⟨ended, rest, own, onward, back⟩⟩ :=
    observed_beside observed
  · cases ended with
    | ok first => cases observed_done_iff.mp onward
    | error reason => exact ⟨⟨reason, own⟩, ⟨failure, back _ onward⟩⟩
  · cases ended with
    | ok second => cases observed_done_iff.mp onward
    | error reason => exact ⟨⟨failure, back _ onward⟩, ⟨reason, own⟩⟩

/-- What wins a race is a success of one that takes part. -/
theorem observed_race_ok {nobody : ε} {activities : List (Activity I (Except ε α))} {result : α}
    (observed : (race nobody activities).Observed trace (.ok result)) :
    ∃ activity ∈ activities, activity.Observed trace (.ok result) := by
  induction activities with
  | nil => cases observed_done_iff.mp observed
  | cons activity rest ih =>
    cases rest with
    | nil => exact ⟨activity, List.mem_cons_self, observed⟩
    | cons second others =>
      rcases observed_firstOf_ok observed with first | later
      · exact ⟨activity, List.mem_cons_self, first⟩
      · obtain ⟨winner, member, success⟩ := ih later
        exact ⟨winner, List.mem_cons_of_mem activity member, success⟩

theorem observed_race_error {nobody failure : ε} {activities : List (Activity I (Except ε α))}
    (observed : (race nobody activities).Observed trace (.error failure)) :
    ∀ activity ∈ activities, ∃ reason, activity.Observed trace (.error reason) := by
  induction activities generalizing failure with
  | nil => simp
  | cons activity rest ih =>
    cases rest with
    | nil =>
      intro only member
      cases List.mem_singleton.mp member
      exact ⟨failure, observed⟩
    | cons second others =>
      obtain ⟨first, reason, later⟩ := observed_firstOf_error observed
      exact List.forall_mem_cons.mpr ⟨first, ih later⟩

end Parallel

end PriceRelay.Activity
